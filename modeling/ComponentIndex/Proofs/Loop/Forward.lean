/-
**The variable that is forwarded.**

Loops and variables are objects that refer to each other: a loop lists its variables, and a variable
knows what it is bound by, which need not list it.  Variables can share a name or a loop, so what
tells the first variable of a loop is which object it is.  The objects of a family stand at
addresses, and a variable is seen with its address as its number.

Main definitions:

* `ComponentIndex.Loop.Family` — loops, alias lists and variables that refer to each other;
* `ComponentIndex.Loop.Family.expression`, `ComponentIndex.Loop.Family.query` — a loop, and what a
  type is asked of, as they are seen from outside;
* `ComponentIndex.Loop.Family.Leads` — a variable leads to its loop and the collection of this loop;
* `ComponentIndex.Loop.noting` — a calculator that notes what it is asked.

Main results:

* `ComponentIndex.Loop.Family.forwardTarget?_query` — where a query leads to;
* `ComponentIndex.Loop.Family.forward_noting` — **what is forwarded**: the first variable of a loop
  and nothing else.
-/

import ComponentIndex.Proofs.Loop.Variable

set_option relaxedAutoImplicit false
set_option autoImplicit false

namespace ComponentIndex.Loop

open Script (Cursor)

/-! ### Families of loops and variables -/

/-- What a variable is bound by: an object at an address, or nothing. -/
inductive Holder where
  /-- A loop. -/
  | loop (address : Nat)
  /-- An alias list. -/
  | aliases (address : Nat)
  /-- Nothing. -/
  | nothing

/-- A variable as an object. -/
structure VariableObject where
  /-- The name of the variable. -/
  name : Text
  /-- The language it belongs to. -/
  language : Text
  /-- What it is bound by. -/
  holder : Holder

/-- A loop as an object. -/
structure LoopObject where
  /-- The text of the loop. -/
  text : Text
  /-- The text of its collection. -/
  collectionText : Text
  /-- The tree of its collection. -/
  collection? : Option Script.Node
  /-- It has an alias list. -/
  hasAliasList : Bool
  /-- The addresses of the variables that it lists. -/
  listed : List Nat

/-- Loops, alias lists and variables that refer to each other by their addresses, in any way. -/
structure Family where
  /-- The variables. -/
  variableAt : Nat → VariableObject
  /-- The loops. -/
  loopAt : Nat → LoopObject
  /-- The loops that alias lists belong to. -/
  loopOfAliases? : Nat → Option Nat

/-- What a type is asked of. -/
inductive Subject where
  /-- The variable at an address. -/
  | bound (address : Nat)
  /-- Anything else. -/
  | other

namespace Family

variable (F : Family)

/-- The variable at an address, numbered by its address. -/
def binder (v : Nat) : Binder := ⟨v, (F.variableAt v).name⟩

/-- The loop at an address. -/
def expression (l : Nat) : Expression where
  text := (F.loopAt l).text
  collectionText := (F.loopAt l).collectionText
  collection? := (F.loopAt l).collection?
  hasAliasList := (F.loopAt l).hasAliasList
  binders := (F.loopAt l).listed.map F.binder

/-- What a variable is bound by. -/
def parentOf : Holder → Parent
  | .loop l => .loop (F.expression l)
  | .aliases a =>
    match F.loopOfAliases? a with
    | some l => .aliases (F.expression l)
    | none => .nothing
  | .nothing => .nothing

/-- The loop around a variable: its parent, or the parent of its alias list. -/
def loopAround? (v : Nat) : Option Nat :=
  match (F.variableAt v).holder with
  | .loop l => some l
  | .aliases a => F.loopOfAliases? a
  | .nothing => none

/-- What a type is asked of. -/
def query : Subject → Query
  | .bound v =>
    .variable ⟨F.binder v, (F.variableAt v).language, F.parentOf (F.variableAt v).holder⟩
  | .other => .other

/-- A variable leads to the loop around it and the collection of this loop. -/
structure Leads (v l : Nat) (collection : Cursor) : Prop where
  /-- It is a variable of a template. -/
  language : (F.variableAt v).language = templateLanguage
  /-- The loop is the one around the variable. -/
  around : F.loopAround? v = some l
  /-- The collection can be referred to. -/
  reference : (F.expression l).reference? = some collection
  /-- The variable is the first one that the loop lists. -/
  first : (F.loopAt l).listed.head? = some v

theorem enclosing?_query (v : Nat) :
    (⟨F.binder v, (F.variableAt v).language, F.parentOf (F.variableAt v).holder⟩ :
      Variable).enclosing? = (F.loopAround? v).map F.expression := by
  rw [Variable.enclosing?, loopAround?]
  cases (F.variableAt v).holder with
  | loop l => rfl
  | aliases a => cases h : F.loopOfAliases? a <;> simp only [parentOf, h, Option.map]
  | nothing => rfl

/-- A variable is the first one of a loop exactly if its address is. -/
theorem exists_binders_eq_cons_iff {v l : Nat} :
    (∃ first others, (F.expression l).binders = first :: others ∧ first.id = v) ↔
      (F.loopAt l).listed.head? = some v := by
  rw [expression]
  cases (F.loopAt l).listed with
  | nil => simp
  | cons w ws => simp [binder]

/-- A query leads to a collection and a loop exactly if the variable does. -/
theorem forwardTarget?_query {subject : Subject} {collection : Cursor} {e : Expression} :
    forwardTarget? (F.query subject) = some (collection, e) ↔
      ∃ v l, subject = .bound v ∧ F.Leads v l collection ∧ e = F.expression l := by
  cases subject with
  | other => simp [query, forwardTarget?]
  | bound v =>
      simp only [query, forwardTarget?, enclosing?_query]
      constructor
      · intro h
        split at h
        · cases h
        next hlanguage =>
        split at h
        · cases h
        next loop hloop =>
        obtain ⟨l, haround, rfl⟩ := Option.map_eq_some_iff.1 hloop
        split at h
        next reference first others hreference hbinders =>
          split at h
          next hid =>
            obtain ⟨rfl, rfl⟩ := Prod.mk.inj (Option.some.inj h)
            have hfirst := F.exists_binders_eq_cons_iff.1 ⟨first, others, hbinders, hid⟩
            exact ⟨v, l, rfl, ⟨Decidable.not_not.1 hlanguage, haround, hreference, hfirst⟩, rfl⟩
          · cases h
        · cases h
      · rintro ⟨w, l, heq, hleads, rfl⟩
        obtain rfl := Subject.bound.inj heq
        obtain ⟨first, others, hbinders, hid⟩ := F.exists_binders_eq_cons_iff.2 hleads.first
        simp only [hleads.language, hleads.around, Option.map_some, hleads.reference, hbinders]
        simp [binder, hid]

end Family

/-! ### Loops that have been read -/

namespace Expression

variable {text : Text} {e : Expression}

/-- Of the variables of a loop that has been read the first one leads to the collection, if there is
one. -/
theorem forwardTarget?_getElem? [Parsers] (h : ofText? text = some e) {i : Nat} {v : Variable}
    (hv : e.variables[i]? = some v) {collection : Cursor} {loop : Expression} :
    forwardTarget? (.variable v) = some (collection, loop) ↔
      i = 0 ∧ e.reference? = some collection ∧ loop = e := by
  rw [Expression.variables, List.getElem?_map] at hv
  obtain ⟨b, hb, rfl⟩ := Option.map_eq_some_iff.1 hv
  rw [forwardTarget?_variable]
  constructor
  · rintro ⟨first, others, reference, hbinders, hid, hreference, heq⟩
    obtain ⟨rfl, rfl⟩ := Prod.mk.inj heq
    refine ⟨?_, hreference, rfl⟩
    rw [hbinders] at hb
    cases i with
    | zero => rfl
    | succ i =>
        rw [List.getElem?_cons_succ] at hb
        exact absurd hid.symm (id_ne_of_ofText? h hbinders b (List.mem_of_getElem? hb))
  · rintro ⟨rfl, hreference, rfl⟩
    obtain ⟨others, hbinders⟩ := List.head?_eq_some_iff.1 (List.head?_eq_getElem? ▸ hb)
    exact ⟨b, others, collection, hbinders, rfl, hreference, rfl⟩

end Expression

/-! ### Forwarding -/

/-- A calculator that notes what it is asked. -/
def noting {σ : Type} (calculator : σ → Cursor → Expression → Bool × σ)
    (state : σ × List (Cursor × Expression)) (collection : Cursor) (loop : Expression) :
    Bool × (σ × List (Cursor × Expression)) :=
  let (answer, next) := calculator state.1 collection loop
  (answer, next, state.2 ++ [(collection, loop)])

section

variable {σ : Type} (calculator : σ → Cursor → Expression → Bool × σ)

theorem forward_of_target {query : Query} {collection : Cursor} {loop : Expression}
    (h : forwardTarget? query = some (collection, loop)) (state : σ) :
    forward calculator (some state) (some query) true =
      ((calculator state collection loop).1, some (calculator state collection loop).2) := by
  rw [forward]
  simp only [if_true, h]

theorem forward_of_no_target {evaluator : Option σ} {query : Option Query} {active : Bool}
    (h : evaluator ≠ none → active = true → query.bind forwardTarget? = none) :
    forward calculator evaluator query active = (false, evaluator) := by
  rw [forward.eq_def]
  split
  next state q =>
    cases active with
    | false => rfl
    | true =>
        have hnone := h (Option.some_ne_none _) rfl
        rw [Option.bind_some] at hnone
        simp only [if_true, hnone]
  · rfl

end

namespace Family

variable {σ : Type}

/-- The calculator is asked for the type of a subject: there is an evaluator, the framework is active,
and the subject is a variable that leads to a loop and its collection. -/
structure Asks (F : Family) (evaluator : Option σ) (subject : Option Subject) (active : Bool)
    (state : σ) (collection : Cursor) (l : Nat) : Prop where
  /-- There is an evaluator. -/
  evaluator : evaluator = some state
  /-- The framework is active. -/
  active : active = true
  /-- The subject is a variable that leads to the loop. -/
  leads : ∃ v, subject = some (.bound v) ∧ F.Leads v l collection

/-- **What is forwarded.** In any family the calculator is asked at most once, exactly for a variable
that leads to the loop around it, and then with this loop and its collection, and its answer is
returned; in all other cases the answer is negative and the evaluator is left as it is.  Of the
variables of a loop that has been read the first one is forwarded, if the loop has a collection, and no
other one. -/
theorem forward_noting [Parsers] (F : Family) (calculator : σ → Cursor → Expression → Bool × σ)
    (evaluator : Option σ) (subject : Option Subject) (active : Bool) :
    (∀ state collection l, F.Asks evaluator subject active state collection l →
      forward (noting calculator) (evaluator.map fun s => (s, [])) (subject.map F.query) active =
        ((calculator state collection (F.expression l)).1,
          some ((calculator state collection (F.expression l)).2,
            [(collection, F.expression l)]))) ∧
    ((∀ state collection l, ¬F.Asks evaluator subject active state collection l) →
      forward (noting calculator) (evaluator.map fun s => (s, [])) (subject.map F.query) active =
        (false, evaluator.map fun s => (s, []))) ∧
    ∀ text e, Expression.ofText? text = some e → ∀ state i v, e.variables[i]? = some v →
      (∀ collection, i = 0 → e.reference? = some collection →
        forward (noting calculator) (some (state, [])) (some (.variable v)) true =
          ((calculator state collection e).1,
            some ((calculator state collection e).2, [(collection, e)]))) ∧
      (i ≠ 0 ∨ e.reference? = none →
        forward (noting calculator) (some (state, [])) (some (.variable v)) true =
          (false, some (state, []))) := by
  refine ⟨?_, ?_, ?_⟩
  · rintro state collection l ⟨rfl, rfl, v, rfl, hleads⟩
    have htarget := F.forwardTarget?_query.2 ⟨v, l, rfl, hleads, rfl⟩
    exact forward_of_target (noting calculator) htarget (state, [])
  · intro hnot
    refine forward_of_no_target _ fun hevaluator hactive => ?_
    obtain ⟨state, hstate⟩ := Option.ne_none_iff_exists'.1 hevaluator
    obtain ⟨s, hs, -⟩ := Option.map_eq_some_iff.1 hstate
    rw [Option.eq_none_iff_forall_ne_some]
    rintro ⟨collection, e⟩ htarget
    obtain ⟨q, hq, htarget⟩ := Option.bind_eq_some_iff.1 htarget
    obtain ⟨asked, hasked, rfl⟩ := Option.map_eq_some_iff.1 hq
    obtain ⟨v, l, rfl, hleads, -⟩ := F.forwardTarget?_query.1 htarget
    exact hnot s collection l ⟨hs, hactive, v, hasked, hleads⟩
  · intro text e he state i v hv
    constructor
    · intro collection hi hcollection
      have htarget := (Expression.forwardTarget?_getElem? he hv).2 ⟨hi, hcollection, rfl⟩
      exact forward_of_target (noting calculator) htarget (state, [])
    · intro hnot
      refine forward_of_no_target _ fun _ _ => ?_
      rw [Option.bind_some, Option.eq_none_iff_forall_ne_some]
      rintro ⟨collection, loop⟩ htarget
      obtain ⟨hi, hcollection, -⟩ := (Expression.forwardTarget?_getElem? he hv).1 htarget
      rcases hnot with hnot | hnot
      · exact hnot hi
      · rw [hnot] at hcollection
        cases hcollection

/-- A loop with an alias list of two variables of one name.  A third variable of this name is bound by
the loop, which does not list it, and a fourth one leads another loop in another language. -/
def ofEqualNames : Family where
  variableAt
    | 0 => ⟨"item", templateLanguage, .aliases 0⟩
    | 1 => ⟨"item", templateLanguage, .aliases 0⟩
    | 2 => ⟨"item", templateLanguage, .loop 0⟩
    | _ => ⟨"item", "javascript", .loop 1⟩
  loopAt
    | 0 => ⟨"(item, item) in [1]", "[1]", some (Script.parse (Utf8.encode "([1]);")), true, [0, 1]⟩
    | _ => ⟨"item in [1]", "[1]", some (Script.parse (Utf8.encode "([1]);")), false, [3]⟩
  loopOfAliases?
    | 0 => some 0
    | _ => none

theorem forward_noting_equalNames :
    let calculator : Unit → Cursor → Expression → Bool × Unit := fun _ _ _ => (true, ())
    let ask := fun v => forward (noting calculator) (some ((), []))
      (some (ofEqualNames.query (.bound v))) true
    (∃ collection, ask 0 = (true, some ((), [(collection, ofEqualNames.expression 0)]))) ∧
      ask 1 = (false, some ((), [])) ∧ ask 2 = (false, some ((), [])) ∧
      ask 3 = (false, some ((), [])) := by
  intro calculator ask
  obtain ⟨collection, hreference⟩ :
      ∃ collection, (ofEqualNames.expression 0).reference? = some collection :=
    Option.isSome_iff_exists.1 (by decide +kernel)
  have hforward := fun v =>
    ofEqualNames.forward_noting calculator (some ()) (some (.bound v)) true
  have hnot : ∀ v, (∀ l collection, ¬ofEqualNames.Leads v l collection) →
      ask v = (false, some ((), [])) := by
    intro v hleads
    refine (hforward v).2.1 fun state collection l hasks => ?_
    obtain ⟨w, hw, hw'⟩ := hasks.leads
    obtain rfl := Subject.bound.inj (Option.some.inj hw)
    exact hleads l collection hw'
  refine ⟨⟨collection, ?_⟩, hnot 1 ?_, hnot 2 ?_, hnot 3 ?_⟩
  · exact (hforward 0).1 () collection 0 ⟨rfl, rfl, 0, rfl, ⟨rfl, rfl, hreference, rfl⟩⟩
  · intro l collection hleads
    obtain rfl := Option.some.inj hleads.around
    exact absurd hleads.first (by decide)
  · intro l collection hleads
    obtain rfl := Option.some.inj hleads.around
    exact absurd hleads.first (by decide)
  · intro l collection hleads
    exact absurd hleads.language (by decide)

end Family

end ComponentIndex.Loop
