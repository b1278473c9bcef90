/-
**Forwarding the type of a loop variable.**

Only the first variable of a loop stands for an element of the collection.  A query for the type of
that variable is forwarded to a calculator, which is given the collection and the loop; every other
query is left to whoever can answer it.

Main definitions:

* `ComponentIndex.Loop.Parent`, `ComponentIndex.Loop.Variable` — a variable and where it is bound;
* `ComponentIndex.Loop.Variable.enclosing?` — the loop that binds a variable;
* `ComponentIndex.Loop.Query`, `ComponentIndex.Loop.forwardTarget?` — what is asked for, and the
  collection and loop it leads to;
* `ComponentIndex.Loop.forward` — forwarding to a calculator.
-/

import ComponentIndex.Loop.ElementType

set_option relaxedAutoImplicit false
set_option autoImplicit false

namespace ComponentIndex.Loop

open Script (Cursor)

/-- What a variable is bound by. -/
inductive Parent where
  /-- A loop itself. -/
  | loop (e : Expression)
  /-- The alias list of a loop. -/
  | aliases (e : Expression)
  /-- Nothing. -/
  | nothing

/-- The language of template variables. -/
def templateLanguage : Text := "vue-js"

/-- A variable, with the language it belongs to and what it is bound by. -/
structure Variable where
  /-- The variable. -/
  binder : Binder
  /-- The language it belongs to. -/
  language : Text
  /-- What it is bound by. -/
  parent : Parent

/-- The loop that binds a variable, directly or in its alias list. -/
def Variable.enclosing? (v : Variable) : Option Expression :=
  match v.parent with
  | .loop e => some e
  | .aliases e => some e
  | .nothing => none

/-- What binds the variables of a loop: its alias list, if it has one. -/
def Expression.parent (e : Expression) : Parent := if e.hasAliasList then .aliases e else .loop e

/-- The variables of a loop. -/
def Expression.variables (e : Expression) : List Variable :=
  e.binders.map fun b => ⟨b, templateLanguage, e.parent⟩

/-- What the type is asked of. -/
inductive Query where
  /-- A variable. -/
  | variable (v : Variable)
  /-- Anything else. -/
  | other

/-- The collection and the loop that a query leads to: it asks for a template variable that is the
first one of its loop, and the loop has a collection. -/
def forwardTarget? : Query → Option (Cursor × Expression)
  | .other => none
  | .variable v =>
    if v.language ≠ templateLanguage then none
    else
      match v.enclosing? with
      | none => none
      | some loop =>
        match loop.reference?, loop.binders with
        | some reference, first :: _ =>
          if first.id = v.binder.id then some (reference, loop) else none
        | _, _ => none

/-- Answers a query for the type of a variable: the calculator is asked where the query leads to a
collection, and the answer is negative otherwise. Nothing is asked while the framework is inactive,
or without an evaluator. -/
def forward {σ : Type} (calculator : σ → Cursor → Expression → Bool × σ) (evaluator : Option σ)
    (query : Option Query) (active : Bool) : Bool × Option σ :=
  match evaluator, query with
  | some state, some q =>
    if active then
      match forwardTarget? q with
      | some (reference, loop) =>
        let (answer, state') := calculator state reference loop
        (answer, some state')
      | none => (false, some state)
    else (false, some state)
  | _, _ => (false, evaluator)

/-- The answer for one variable, with a log of its own. -/
def typeOf (v : Variable) (active : Bool) : Bool × TypeLog :=
  let (answer, log) := forward findElementType (some .empty) (some (.variable v)) active
  (answer, log.getD .empty)

end ComponentIndex.Loop
