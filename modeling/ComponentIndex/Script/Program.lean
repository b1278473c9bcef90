/-
**Scripts as syntax trees.**

The whole grammar: each goal has its rule, and a rule reaches deeper goals at a depth one less.  The
grammar is that of well-formed scripts.  It does not recover from a mistake: a source that is no
well-formed script has the empty program as its tree, where a parser that recovers keeps the rest.

Main definitions:

* `ComponentIndex.Script.Grammar.run` — the rule of a goal, down to a given depth;
* `ComponentIndex.Script.parse?` — the tree of a well-formed script;
* `ComponentIndex.Script.parse` — the same with the empty program for all other sources.
-/

import ComponentIndex.Script.Grammar.Statement

set_option relaxedAutoImplicit false
set_option autoImplicit false

namespace ComponentIndex.Script

namespace Grammar

open Rule

/-- The rule of a goal, given the grammar for deeper goals. -/
def ruleOf (g : Grammar) : Goal → Rule Node
  | .statement => statement g
  | .expression allowIn => expression g allowIn
  | .operand allowIn => operand g allowIn
  | .unary => unary g
  | .construction => construction g
  | .binding => binding g
  | .markup => markupElement g

/-- The rule of a goal in which goals nest at most `depth` deep. -/
def run (fuel : Nat) : Nat → Goal → Rule Node
  | 0, _ => failure
  | depth + 1, goal => ruleOf ⟨run fuel depth, fuel⟩ goal

/-- The line that names an interpreter, if the source starts with one. -/
def hashBangLine : Rule (List Node) := do
  let m ← here
  if m.startsWith "#!" then
    let stop := m.skipGlyphs fun g => !g.is '\n'
    resume true stop
    return [nodeBetween .hashBangLine m stop []]
  else return []

/-- A whole script. -/
def program (g : Grammar) : Rule Node :=
  span .program
    (hashBangLine ++ repeatUntil Token.isEnd (child (g.goal .statement)) g.fuel ++ comments)

end Grammar

/-- The syntax tree of a source, if it is a well-formed script. -/
def parse? (bytes : List UInt8) : Option Node :=
  let start := Mark.atStart bytes
  let fuel := start.rest.length + 2
  let first : Place := ⟨Token.read fuel true start, start, fuel⟩
  ((Grammar.program ⟨Grammar.run fuel fuel, fuel⟩).run first).map Prod.fst

/-- The tree of the empty script. -/
def emptyProgram : Node := ⟨.program, none, 0, [], []⟩

/-- The syntax tree of a well-formed script. No more is known of another source than that it has a tree,
for which the empty program stands. -/
def parse (bytes : List UInt8) : Node := (parse? bytes).getD emptyProgram

end ComponentIndex.Script
