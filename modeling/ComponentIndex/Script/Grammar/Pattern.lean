/-
**Names and patterns.**

A pattern binds names or assigns to several targets at once.  Patterns that follow a keyword are
read as such.  The left side of an assignment and the parameters of an arrow function only turn out
to be patterns when the sign behind them is read; they are read as literals and converted.

Main definitions:

* `ComponentIndex.Script.reservedWords` — words that name nothing;
* `ComponentIndex.Script.Grammar.propertyName` — the key of a member;
* `ComponentIndex.Script.Grammar.binding` — a name or a pattern;
* `ComponentIndex.Script.Node.toPattern` — the pattern that a literal stands for.
-/

import ComponentIndex.Script.Grammar.Rule

set_option relaxedAutoImplicit false
set_option autoImplicit false

namespace ComponentIndex.Script

/-- Words that name nothing. -/
def reservedWords : List Text :=
  ["break", "case", "catch", "class", "const", "continue", "debugger", "default", "delete", "do",
    "else", "export", "extends", "false", "finally", "for", "function", "if", "import", "in",
    "instanceof", "new", "null", "return", "super", "switch", "this", "throw", "true", "try",
    "typeof", "var", "void", "while", "with"].map Text.ofString

/-- The token can stand as a name. -/
def Token.isName (t : Token) : Bool := t.isAnyWord && !reservedWords.contains t.text

/-! ### Literals that turn out to be patterns -/

/-- The kind of a literal, or of a part of it, when it is read as a pattern. -/
def Kind.asPattern : Kind → Kind
  | .object => .objectPattern
  | .array => .arrayPattern
  | .pair => .pairPattern
  | .spreadElement => .restPattern
  | .shorthandPropertyIdentifier => .shorthandPropertyIdentifierPattern
  | .assignmentExpression => .assignmentPattern
  | kind => kind

namespace Node

mutual

/-- The pattern that a literal stands for: its parts become patterns as far as they are targets. -/
def toPattern : Node → Node
  | ⟨kind, role, start, text, children⟩ =>
    match kind with
    | .object | .array | .spreadElement =>
      ⟨kind.asPattern, role, start, text, toPatterns children⟩
    | .pair => ⟨.pairPattern, role, start, text, toPatternValues children⟩
    | kind => ⟨kind.asPattern, role, start, text, children⟩

/-- The patterns that a list of literals stands for. -/
def toPatterns : List Node → List Node
  | [] => []
  | n :: ns => toPattern n :: toPatterns ns

/-- The parts of a pair, of which only the value is a target. -/
def toPatternValues : List Node → List Node
  | [] => []
  | n :: ns => (if n.role = some .value then toPattern n else n) :: toPatternValues ns

end

end Node

namespace Grammar

open Rule

/-! ### Names -/

/-- A name. -/
def identifier : Rule Node := do
  if (← ahead).isName then single .identifier else failure

/-- A string literal. -/
def stringLiteral : Rule Node := do
  let t ← ahead
  match t.kind with
  | .string parts =>
    let _ ← pass
    return nodeBetween .string t.start t.stop parts
  | _ => failure

/-- The key of a member of an object, a class or an object pattern. -/
def propertyName (g : Grammar) : Rule Node := do
  let t ← ahead
  match t.kind with
  | .word => single .propertyIdentifier
  | .privateWord => single .privatePropertyIdentifier
  | .number => single .number
  | .string _ => stringLiteral
  | _ => span .computedPropertyName (mark "[" ++ child (g.goal (.operand true)) ++ mark "]")

/-! ### Patterns -/

/-- A pattern with a default value, or without one. -/
def bindingWithDefault (g : Grammar) : Rule Node := do
  let start ← here
  let target ← g.goal .binding
  if ← seesMark "=" then
    let rest ← mark "=" ++ child (g.goal (.operand true))
    finish .assignmentPattern start (target :: rest)
  else return target

/-- The rest of a list, bound as a whole. -/
def restPattern (g : Grammar) : Rule Node :=
  span .restPattern (mark "..." ++ child (g.goal .binding))

/-- A member of an object pattern. -/
def patternMember (g : Grammar) : Rule Node := do
  if ← seesMark "..." then restPattern g
  else
    let start ← here
    let key ← propertyName g
    if ← seesMark ":" then
      let rest ← mark ":" ++ childAs .value (bindingWithDefault g)
      finish .pairPattern start (key.withRole .key :: rest)
    else if key.kind = .propertyIdentifier then
      let name := { key with kind := .shorthandPropertyIdentifierPattern }
      if ← seesMark "=" then
        let rest ← mark "=" ++ child (g.goal (.operand true))
        finish .objectAssignmentPattern start (name :: rest)
      else return name
    else failure

/-- An element of an array pattern, or a parameter. -/
def patternElement (g : Grammar) : Rule Node := do
  if ← seesMark "..." then restPattern g else bindingWithDefault g

/-- A name or a pattern that binds names. -/
def binding (g : Grammar) : Rule Node := do
  if ← seesMark "\x7b" then
    span .objectPattern
      (mark "\x7b" ++ listUntil "\x7d" (child (patternMember g)) g.fuel ++ mark "\x7d")
  else if ← seesMark "[" then
    span .arrayPattern (mark "[" ++ listUntil "]" (child (patternElement g)) g.fuel ++ mark "]")
  else identifier

/-- The parameters of a function. -/
def formalParameters (g : Grammar) : Rule Node :=
  span .formalParameters
    (mark "(" ++ listUntil ")" (child (patternElement g)) g.fuel ++ mark ")")

end Grammar

end ComponentIndex.Script
