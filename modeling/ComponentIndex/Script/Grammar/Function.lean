/-
**Functions, objects and classes.**

Main definitions:

* `ComponentIndex.Script.Grammar.block` — statements in braces;
* `ComponentIndex.Script.Grammar.functionFrom` — a function, named or not;
* `ComponentIndex.Script.Grammar.objectLiteral` — an object literal;
* `ComponentIndex.Script.Grammar.classFrom` — a class.
-/

import ComponentIndex.Script.Grammar.Pattern

set_option relaxedAutoImplicit false
set_option autoImplicit false

namespace ComponentIndex.Script.Grammar

open Rule

/-! ### Functions -/

/-- Statements in braces. -/
def block (g : Grammar) : Rule Node :=
  span .statementBlock
    (mark "\x7b" ++ repeatUntil (Token.isMark "\x7d") (child (g.goal .statement)) g.fuel ++
      mark "\x7d")

/-- The name of a function or a class, if it has one. -/
def name? : Rule (List Node) := do
  if (← ahead).isName then child identifier else return []

/-- A function from its keyword on; `before` is what has been read since `start`. -/
def functionFrom (g : Grammar) (declares : Bool) (start : Mark) (before : List Node) :
    Rule Node := do
  let keyword ← word "function"
  let star ← mark? "*"
  let rest ← name? ++ child (formalParameters g) ++ child (block g)
  let kind : Kind :=
    if declares then
      if star.isEmpty then .functionDeclaration else .generatorFunctionDeclaration
    else if star.isEmpty then .functionExpression
    else .generatorFunction
  finish kind start (before ++ keyword ++ star ++ rest)

/-- A method from its parameters on; `before` is what has been read since `start`. -/
def methodFrom (g : Grammar) (start : Mark) (before : List Node) : Rule Node := do
  let rest ← child (formalParameters g) ++ child (block g)
  finish .methodDefinition start (before ++ rest)

/-! ### Members -/

/-- Words that can modify a member whose name follows. -/
def modifierWords : List Text := ["static", "async", "get", "set", "accessor"].map Text.ofString

/-- The token can open the name of a member, or is the star of a generator. -/
def opensMemberName (t : Token) : Bool :=
  match t.kind with
  | .word | .privateWord | .number | .string _ => true
  | _ => t.isMark "[" || t.isMark "*"

/-- The modifiers of a member, at most `fuel` of them: a word is one only if a name follows. -/
def modifiers : Nat → Rule (List Node)
  | 0 => return []
  | fuel + 1 => do
    let t ← ahead
    if t.isMark "*" then anyToken
    else if t.isAnyWord && modifierWords.contains t.text then
      let before ← get
      let modifier ← anyToken
      if opensMemberName (← ahead) then
        let rest ← modifiers fuel
        return modifier ++ rest
      else
        set before
        return []
    else return []

/-! ### Objects -/

/-- A spread element. -/
def spreadElement (g : Grammar) : Rule Node :=
  span .spreadElement (mark "..." ++ child (g.goal (.operand true)))

/-- A member of an object literal. A shorthand with a default is read as well, for the case that
the literal turns out to be a pattern. -/
def objectMember (g : Grammar) : Rule Node := do
  if ← seesMark "..." then spreadElement g
  else
    let start ← here
    let before ← modifiers 4
    let isPlainName := (← ahead).isName
    let key ← propertyName g
    if ← seesMark "(" then methodFrom g start (before ++ [key])
    else if !before.isEmpty then failure
    else if ← seesMark ":" then
      let rest ← mark ":" ++ childAs .value (g.goal (.operand true))
      finish .pair start (key.withRole .key :: rest)
    else if !isPlainName then failure
    else if ← seesMark "=" then
      let rest ← mark "=" ++ child (g.goal (.operand true))
      finish .objectAssignmentPattern start
        ({ key with kind := .shorthandPropertyIdentifierPattern } :: rest)
    else return { key with kind := .shorthandPropertyIdentifier }

/-- An object literal. -/
def objectLiteral (g : Grammar) : Rule Node :=
  span .object
    (mark "\x7b" ++ listUntil "\x7d" (child (objectMember g)) g.fuel ++ mark "\x7d")

/-! ### Classes -/

/-- A decorator. -/
def decorator (g : Grammar) : Rule Node := span .decorator (mark "@" ++ child (g.goal .unary))

/-- Decorators, as far as they go. -/
def decorators (g : Grammar) : Rule (List Node) :=
  repeatUntil (fun t => !t.isMark "@") (child (decorator g)) g.fuel

/-- A member of a class. -/
def classMember (g : Grammar) : Rule (List Node) := do
  if ← seesMark ";" then anyToken
  else
    let outer ← comments
    let start ← here
    let decorated ← decorators g
    let before ← get
    let static ← word? "static"
    if !static.isEmpty && (← ahead).isMark "\x7b" then
      let body ← child (block g)
      return outer ++ [← finish .classStaticBlock start (decorated ++ static ++ body)]
    else
      set before
      let modified ← modifiers 4
      let key ← child (propertyName g)
      if ← seesMark "(" then
        return outer ++ [← methodFrom g start (decorated ++ modified ++ key)]
      else
        let value ← do
          if ← seesMark "=" then mark "=" ++ childAs .value (g.goal (.operand true))
          else pure []
        let field ← finish .fieldDefinition start (decorated ++ modified ++ key ++ value)
        let close ← semicolon
        return outer ++ field :: close

/-- The body of a class. -/
def classBody (g : Grammar) : Rule Node :=
  span .classBody
    (mark "\x7b" ++ repeatUntil (Token.isMark "\x7d") (classMember g) g.fuel ++ mark "\x7d")

/-- What a class extends, if anything. -/
def heritage? (g : Grammar) : Rule (List Node) := do
  if ← seesWord "extends" then
    child (span .classHeritage (word "extends" ++ child (g.goal .unary)))
  else return []

/-- A class from its keyword on; `before` is what has been read since `start`. -/
def classFrom (g : Grammar) (declares : Bool) (start : Mark) (before : List Node) : Rule Node := do
  let rest ← word "class" ++ name? ++ heritage? g ++ child (classBody g)
  finish (if declares then .classDeclaration else .classExpression) start (before ++ rest)

end ComponentIndex.Script.Grammar
