/-
**Rules of the script grammar.**

A rule reads a node from the tokens ahead or fails.  The grammar is recursive: a rule that needs
another one at a deeper place names it by its *goal*, and the whole grammar ties the knot by
counting the depth down (`ComponentIndex.Script.Grammar.run`).  A rule always reads a token before
it names a goal, so a depth of one more than the number of glyphs suffices.

Main definitions:

* `ComponentIndex.Script.Rule` — readers of syntax;
* `ComponentIndex.Script.Goal`, `ComponentIndex.Script.Grammar` — the recursive goals, and what a
  rule is given to reach them;
* `ComponentIndex.Script.Rule.span` — the node of what a rule reads;
* `ComponentIndex.Script.Rule.listUntil` — a list with separators.
-/

import ComponentIndex.Script.Grammar.Token

set_option relaxedAutoImplicit false
set_option autoImplicit false

namespace ComponentIndex.Script

/-- Where a rule stands: the token ahead, and where the token before it ended. -/
structure Place where
  /-- The token ahead. -/
  ahead : Token
  /-- The end of what has been read. -/
  behind : Mark
  /-- More than the number of glyphs of the source. -/
  fuel : Nat

/-- A reader of syntax: it reads tokens and yields a result, or fails. -/
abbrev Rule (α : Type) := StateT Place Option α

/-- What a rule can ask the grammar for. -/
inductive Goal where
  /-- A statement. -/
  | statement
  /-- An expression or several with commas between them; `in` is an operator or not. -/
  | expression (allowIn : Bool)
  /-- An expression without commas; `in` is an operator or not. -/
  | operand (allowIn : Bool)
  /-- An operand of a binary operator, with its prefix and postfix operators. -/
  | unary
  /-- A `new` expression without the calls and accesses that may follow it. -/
  | construction
  /-- A name or a pattern that binds names. -/
  | binding
  /-- A markup element. -/
  | markup

/-- What a rule is given: how to reach a goal, and a bound on the length of its lists. -/
structure Grammar where
  /-- The rule of a goal. -/
  goal : Goal → Rule Node
  /-- A bound on the length of lists. -/
  fuel : Nat

namespace Rule

/-! ### Single tokens -/

/-- The token ahead. -/
def ahead : Rule Token := do return (← get).ahead

/-- The place where the token ahead starts. -/
def here : Rule Mark := do return (← get).ahead.start

/-- The end of what has been read. -/
def behind : Rule Mark := do return (← get).behind

/-- Goes on reading at a place; `operand` tells that no operator can stand there. -/
def resume (operand : Bool) (m : Mark) : Rule Unit :=
  modify fun p => { p with ahead := Token.read p.fuel operand m, behind := m }

/-- After this token an operand is expected, and no operator. -/
def opensOperand (t : Token) : Bool :=
  match t.kind with
  | .punctuation => t.text != Text.ofString ")" && t.text != Text.ofString "]"
  | _ => false

/-- Passes the token ahead. -/
def pass : Rule Token := do
  let t ← ahead
  resume (opensOperand t) t.stop
  return t

/-- The comments before the token ahead, which then has none. -/
def comments : Rule (List Node) := do
  let t ← ahead
  modify fun p => { p with ahead := { p.ahead with comments := [] } }
  return t.comments

/-- The token ahead is the given word. -/
def seesWord (text : Text) : Rule Bool := do return (← ahead).isWord text

/-- The token ahead is the given punctuation. -/
def seesMark (text : Text) : Rule Bool := do return (← ahead).isMark text

/-- The token ahead as a node of the given kind, with the comments before it. -/
def leaf (kind : Kind) : Rule (List Node) := do
  let before ← comments
  let t ← pass
  return before ++ [nodeBetween kind t.start t.stop []]

/-- The token ahead as an anonymous node, with the comments before it. -/
def anyToken : Rule (List Node) := do
  let t ← ahead
  leaf (.token t.text)

/-- The given word. -/
def word (text : Text) : Rule (List Node) := do
  if ← seesWord text then anyToken else failure

/-- The given punctuation. -/
def mark (text : Text) : Rule (List Node) := do
  if ← seesMark text then anyToken else failure

/-- The given punctuation, if it is ahead. -/
def mark? (text : Text) : Rule (List Node) := do
  if ← seesMark text then anyToken else return []

/-- The given word, if it is ahead. -/
def word? (text : Text) : Rule (List Node) := do
  if ← seesWord text then anyToken else return []

/-! ### Nodes -/

/-- What a rule reads, with the comments before it. -/
def child (rule : Rule Node) : Rule (List Node) := do
  let before ← comments
  let n ← rule
  return before ++ [n]

/-- What a rule reads, in the given role, with the comments before it. -/
def childAs (role : Role) (rule : Rule Node) : Rule (List Node) := do
  let before ← comments
  let n ← rule
  return before ++ [n.withRole role]

/-- The node of the given kind that spans what has been read since a place. -/
def finish (kind : Kind) (start : Mark) (children : List Node) : Rule Node := do
  return nodeBetween kind start (← behind) children

/-- The node of the given kind that spans what a rule reads. -/
def span (kind : Kind) (rule : Rule (List Node)) : Rule Node := do
  let start ← here
  let children ← rule
  finish kind start children

/-- The token ahead as a node of the given kind. -/
def single (kind : Kind) : Rule Node := do
  let t ← pass
  return nodeBetween kind t.start t.stop []

/-- The results of two rules, one after the other. -/
def andThen (first second : Rule (List Node)) : Rule (List Node) := do
  let ns ← first
  let ms ← second
  return ns ++ ms

instance : HAppend (Rule (List Node)) (Rule (List Node)) (Rule (List Node)) := ⟨andThen⟩

/-! ### Lists -/

/-- What a rule reads over and over until the token ahead satisfies `stops`, at most `fuel` times. -/
def repeatUntil (stops : Token → Bool) (rule : Rule (List Node)) : Nat → Rule (List Node)
  | 0 => failure
  | fuel + 1 => do
    if stops (← ahead) then return []
    let ns ← rule
    let ms ← repeatUntil stops rule fuel
    return ns ++ ms

/-- Items with commas between them, up to the closing punctuation; an item may be missing. -/
def listUntil (close : Text) (item : Rule (List Node)) (fuel : Nat) : Rule (List Node) :=
  repeatUntil (Token.isMark close) (do
    if ← seesMark "," then anyToken
    else
      let ns ← item
      if ← seesMark close then return ns
      let comma ← mark ","
      return ns ++ comma) fuel

/-! ### The end of a statement -/

/-- A token that goes on with the statement before it, even on a new line. -/
def continuesStatement (t : Token) : Bool :=
  match t.kind with
  | .punctuation =>
    match t.text with
    | [] => false
    | c :: _ =>
      if c = ('+' : CodePoint) || c = ('-' : CodePoint) then
        t.text != Text.ofString "++" && t.text != Text.ofString "--"
      else if c = ('!' : CodePoint) then (Text.ofString "!=").isPrefixOf t.text
      else (Text.ofString "`,:;*%><=[(?^|&/.").contains c
  | .word => t.text == Text.ofString "in" || t.text == Text.ofString "instanceof"
  | _ => false

/-- A semicolon may be left out before the token ahead: at the end of a block or of the source, and
on a new line unless the token goes on with the statement. -/
def endsStatement (t : Token) : Bool :=
  t.isEnd || t.isMark "\x7d" || (t.afterNewline && !continuesStatement t)

/-- A keyword that takes an optional operand stands alone: a comment that breaks the line also ends
it, whatever follows. -/
def standsAlone (t : Token) : Bool :=
  t.isMark ";" || endsStatement t ||
    (t.afterBreakingComment && !t.isMark "," && !t.isMark "=")

/-- The semicolon of a statement, which may be left out. Behind it no operator can stand, so hyphens
on a new line may open a comment. -/
def semicolon : Rule (List Node) := do
  let t ← ahead
  if t.isMark ";" then anyToken
  else if t.isEnd || t.isMark "\x7d" || t.afterNewline then
    if t.isMark "--" then resume true (← behind)
    return []
  else failure

end Rule

end ComponentIndex.Script
