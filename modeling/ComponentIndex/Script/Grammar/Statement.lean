/-
**Statements.**

Main definitions:

* `ComponentIndex.Script.Grammar.declaration?` — functions, classes and variables;
* `ComponentIndex.Script.Grammar.importStatement`, `ComponentIndex.Script.Grammar.exportStatement` —
  modules;
* `ComponentIndex.Script.Grammar.statement` — any statement.
-/

import ComponentIndex.Script.Grammar.Expression

set_option relaxedAutoImplicit false
set_option autoImplicit false

namespace ComponentIndex.Script.Grammar

open Rule

/-- Tells whether a rule would succeed here, without reading anything. -/
def wouldSee (rule : Rule Bool) : Rule Bool := do
  let before ← get
  let answer ← rule
  set before
  return answer

/-- A property of the token behind the one ahead. -/
def secondToken (p : Token → Bool) : Rule Bool := wouldSee do
  let _ ← pass
  return p (← ahead)

/-- An expression in parentheses, as the head of a statement. -/
def condition (g : Grammar) : Rule Node :=
  span .parenthesizedExpression
    (mark "(" ++ child (g.goal (.expression true)) ++ comments ++ mark ")")

/-- An expression as a statement. -/
def expressionStatement (g : Grammar) : Rule Node :=
  span .expressionStatement (child (expression g true) ++ semicolon)

/-- In the braces ahead a name and a colon come first, so they may be an object literal. -/
def seesPossibleObject : Rule Bool := wouldSee do
  let _ ← pass
  let name ← pass
  return name.isAnyWord && (← ahead).isMark ":"

/-- A statement in braces: an expression that begins with an object literal, if it can be one, and
else a block. -/
def bracedStatement (g : Grammar) : Rule Node := do
  if ← seesPossibleObject then expressionStatement g <|> block g
  else block g <|> expressionStatement g

/-- A block with which the statement around it ends, but not the source. -/
def closingBlock (g : Grammar) (goesOn : Token → Bool) : Rule Node := do
  let n ← block g
  let t ← ahead
  if goesOn t || t.isEnd then failure else return n

/-- A statement that is a part of another one. Braces that can be an object literal are a block if
they can be, unless the other statement goes on behind them or the source ends there. -/
def innerStatement (g : Grammar) (goesOn : Token → Bool) : Rule Node := do
  if ← seesMark "\x7b" then
    if ← seesPossibleObject then closingBlock g goesOn <|> bracedStatement g
    else bracedStatement g
  else g.goal .statement

/-- A statement with which another one ends. -/
def finalStatement (g : Grammar) : Rule Node := innerStatement g fun _ => false

/-! ### Declarations -/

/-- A variable with its initial value, if it has one. -/
def declarator (g : Grammar) (allowIn : Bool) : Rule Node := do
  let start ← here
  let target ← g.goal .binding
  if ← seesMark "=" then
    let rest ← mark "=" ++ childAs .value (g.goal (.operand allowIn))
    finish .variableDeclarator start (target :: rest)
  else finish .variableDeclarator start [target]

/-- The further variables of a declaration. -/
def moreDeclarators (g : Grammar) (allowIn : Bool) : Rule (List Node) :=
  repeatUntil (fun t => !t.isMark ",") (mark "," ++ child (declarator g allowIn)) g.fuel

/-- The kind of declaration that a keyword opens. -/
def declarationKind (t : Token) : Kind :=
  if t.isWord "var" then .variableDeclaration else .lexicalDeclaration

/-- The token can follow `let` in a declaration. -/
def opensBinding (t : Token) : Bool := t.isName || t.isMark "[" || t.isMark "\x7b"

/-- A declaration of variables starts here. -/
def seesVariables : Rule Bool := do
  let t ← ahead
  if t.isWord "var" || t.isWord "const" then return true
  else if t.isWord "let" then secondToken opensBinding
  else return false

/-- A declaration of variables. -/
def variableStatement (g : Grammar) : Rule Node := do
  let kind := declarationKind (← ahead)
  span kind (anyToken ++ child (declarator g true) ++ moreDeclarators g true ++ semicolon)

/-- A function or a class that is declared, a declaration of variables, or none of these. -/
def declaration? (g : Grammar) : Rule (Option Node) := do
  let t ← ahead
  let start ← here
  if t.isWord "function" then return some (← functionFrom g true start [])
  else if t.isWord "class" then return some (← classFrom g true start [])
  else if t.isMark "@" then
    let before ← get
    let decorated ← decorators g
    if ← seesWord "class" then return some (← classFrom g true start decorated)
    else
      set before
      return none
  else if t.isWord "async" then
    if ← secondToken (fun u => u.isWord "function" && !u.afterNewline) then
      let keyword ← word "async"
      return some (← functionFrom g true start keyword)
    else return none
  else if ← seesVariables then return some (← variableStatement g)
  else return none

/-! ### Modules -/

/-- The module that names are taken from. -/
def fromClause : Rule (List Node) := word "from" ++ child stringLiteral

/-- The attributes of an import. -/
def importAttributes (g : Grammar) : Rule (List Node) := do
  if (← seesWord "with") || (← seesWord "assert") then
    child (span .importAttribute (anyToken ++ child (objectLiteral g)))
  else return []

/-- The name by which a module exports something. -/
def exportedName : Rule (List Node) := do
  let t ← ahead
  match t.kind with
  | .string _ => child stringLiteral
  | .word => if t.isWord "default" then anyToken else leaf .identifier
  | _ => failure

/-- A name, and another name for it after `as`. -/
def specifier (kind : Kind) : Rule Node :=
  span kind do
    let name ← exportedName
    if ← seesWord "as" then
      let other ← word "as" ++ exportedName
      return name ++ other
    else return name

/-- Specifiers in braces. -/
def specifiers (g : Grammar) (list item : Kind) : Rule Node :=
  span list (mark "\x7b" ++ listUntil "\x7d" (child (specifier item)) g.fuel ++ mark "\x7d")

/-- All names of a module under one name, or names in braces. -/
def namedOrAll (g : Grammar) : Rule Node := do
  if ← seesMark "*" then
    span .namespaceImport (mark "*" ++ word "as" ++ child identifier)
  else specifiers g .namedImports .importSpecifier

/-- What an import binds. -/
def importClause (g : Grammar) : Rule Node :=
  span .importClause do
    if (← ahead).isName then
      let first ← child identifier
      if ← seesMark "," then
        let rest ← mark "," ++ child (namedOrAll g)
        return first ++ rest
      else return first
    else child (namedOrAll g)

/-- An import statement. -/
def importStatement (g : Grammar) : Rule Node :=
  span .importStatement do
    let keyword ← word "import"
    let t ← ahead
    let source ←
      match t.kind with
      | .string _ => child stringLiteral
      | _ => child (importClause g) ++ fromClause
    let rest ← importAttributes g ++ semicolon
    return keyword ++ source ++ rest

/-- What is exported as the default: a declaration, or the value of an expression. -/
def defaultExport (g : Grammar) : Rule (List Node) := do
  let before ← get
  let isDeclaration ← wouldSee do
    let t ← ahead
    if t.isWord "class" then
      let _ ← pass
      return (← ahead).isName
    else
      if t.isWord "async" then
        let _ ← pass
      if ← seesWord "function" then
        let _ ← pass
        let _ ← mark? "*"
        return (← ahead).isName
      else return false
  if isDeclaration then
    let outer ← comments
    match ← declaration? g with
    | some n => return outer ++ [n]
    | none => failure
  else
    set before
    childAs .value (g.goal (.operand true)) ++ semicolon

/-- What stands behind the star of an export. -/
def exportAll : Rule (List Node) := do
  let start ← here
  let star ← mark "*"
  if ← seesWord "as" then
    let rest ← word "as" ++ exportedName
    return [← finish .namespaceExport start (star ++ rest)]
  else return star

/-- An export statement; `before` is what has been read since `start`. -/
def exportStatement (g : Grammar) (start : Mark) (before : List Node) : Rule Node := do
  let keyword ← word "export"
  let outer ← comments
  let rest ← do
    if ← seesWord "default" then word "default" ++ defaultExport g
    else if ← seesMark "*" then exportAll ++ fromClause ++ importAttributes g ++ semicolon
    else if ← seesMark "\x7b" then
      let names ← child (specifiers g .exportClause .exportSpecifier)
      let source ← do
        if ← seesWord "from" then fromClause ++ importAttributes g else pure []
      let close ← semicolon
      pure (names ++ source ++ close)
    else
      match ← declaration? g with
      | some n => pure [n]
      | none => failure
  finish .exportStatement start (before ++ keyword ++ outer ++ rest)

/-! ### Control flow -/

/-- An `if` statement. -/
def ifStatement (g : Grammar) : Rule Node :=
  span .ifStatement do
    let rest ← word "if" ++ child (condition g) ++ child (innerStatement g (Token.isWord "else"))
    if ← seesWord "else" then
      let other ← child (span .elseClause (word "else" ++ child (finalStatement g)))
      return rest ++ other
    else return rest

/-- The head of a loop over the names or the elements of something, from the sign on. -/
def loopSource (g : Grammar) : Rule (List Node) := do
  if (← seesWord "in") || (← seesWord "of") then
    anyToken ++ child (g.goal (.expression true)) ++ comments ++ mark ")"
  else failure

/-- The condition and the step of a counting loop. -/
def loopSteps (g : Grammar) : Rule (List Node) := do
  let test ← do
    if ← seesMark ";" then child (span .emptyStatement anyToken)
    else child (g.goal (.expression true)) ++ mark ";"
  let step ← do
    if ← seesMark ")" then comments else child (g.goal (.expression true)) ++ comments
  let close ← mark ")"
  return test ++ step ++ close

/-- The head of a loop that declares its variables. -/
def declaringHead (g : Grammar) : Rule (Kind × List Node) := do
  let start ← here
  let kind := declarationKind (← ahead)
  let outer ← comments
  let keyword ← anyToken
  let first ← here
  let target ← child (g.goal .binding)
  if (← seesWord "in") || (← seesWord "of") then
    let rest ← loopSource g
    return (.forInStatement, outer ++ keyword ++ target ++ rest)
  else
    let value ← do
      if ← seesMark "=" then mark "=" ++ childAs .value (g.goal (.operand false)) else pure []
    let declared ← finish .variableDeclarator first (target ++ value)
    let more ← moreDeclarators g false ++ mark ";"
    let declaration ← finish kind start (keyword ++ [declared] ++ more)
    let rest ← loopSteps g
    return (.forStatement, outer ++ declaration :: rest)

/-- The head of a loop that declares nothing. -/
def plainHead (g : Grammar) : Rule (Kind × List Node) := do
  if ← seesMark ";" then
    let empty ← child (span .emptyStatement anyToken)
    let rest ← loopSteps g
    return (.forStatement, empty ++ rest)
  else
    let outer ← comments
    let first ← g.goal (.expression false)
    if (← seesWord "in") || (← seesWord "of") then
      let rest ← loopSource g
      return (.forInStatement, outer ++ first.toPattern :: rest)
    else
      let sign ← mark ";"
      let rest ← loopSteps g
      return (.forStatement, outer ++ first :: (sign ++ rest))

/-- A `for` loop of any form. -/
def forStatement (g : Grammar) : Rule Node := do
  let start ← here
  let opening ← word "for" ++ word? "await" ++ mark "("
  let (kind, head) ← if ← seesVariables then declaringHead g else plainHead g
  let body ← child (finalStatement g)
  finish kind start (opening ++ head ++ body)

/-- A `while` loop. -/
def whileStatement (g : Grammar) : Rule Node :=
  span .whileStatement (word "while" ++ child (condition g) ++ child (finalStatement g))

/-- A `do` loop. -/
def doStatement (g : Grammar) : Rule Node :=
  span .doStatement
    (word "do" ++ child (innerStatement g (Token.isWord "while")) ++ word "while" ++
      child (condition g) ++ mark? ";")

/-- The statements of a branch of a `switch`. -/
def branchBody (g : Grammar) : Rule (List Node) :=
  repeatUntil (fun t => t.isMark "\x7d" || t.isWord "case" || t.isWord "default")
    (child (g.goal .statement)) g.fuel

/-- A branch of a `switch`. -/
def branch (g : Grammar) : Rule Node := do
  if ← seesWord "default" then
    span .switchDefault (word "default" ++ mark ":" ++ branchBody g)
  else
    span .switchCase
      (word "case" ++ child (g.goal (.expression true)) ++ mark ":" ++ branchBody g)

/-- A `switch` statement. -/
def switchStatement (g : Grammar) : Rule Node :=
  span .switchStatement
    (word "switch" ++ child (condition g) ++
      child (span .switchBody
        (mark "\x7b" ++ repeatUntil (Token.isMark "\x7d") (child (branch g)) g.fuel ++
          mark "\x7d")))

/-- The handler of a `try` statement. -/
def catchClause (g : Grammar) : Rule Node :=
  span .catchClause do
    let keyword ← word "catch"
    let parameter ← do
      if ← seesMark "(" then mark "(" ++ child (g.goal .binding) ++ mark ")" else pure []
    let body ← child (block g)
    return keyword ++ parameter ++ body

/-- A `try` statement. -/
def tryStatement (g : Grammar) : Rule Node :=
  span .tryStatement do
    let attempt ← word "try" ++ child (block g)
    let handler ← if ← seesWord "catch" then child (catchClause g) else pure []
    let final ← do
      if ← seesWord "finally" then
        child (span .finallyClause (word "finally" ++ child (block g)))
      else pure []
    if handler.isEmpty && final.isEmpty then failure
    return attempt ++ handler ++ final

/-- A keyword with an optional operand, as a statement. -/
def jumpStatement (kind : Kind) (operand : Rule (List Node)) : Rule Node :=
  span kind do
    let keyword ← anyToken
    let t ← ahead
    if standsAlone t then
      let close ← mark? ";"
      return keyword ++ close
    else
      let rest ← operand ++ semicolon
      return keyword ++ rest

/-- A statement with a label before it. -/
def labeledStatement (g : Grammar) : Rule Node :=
  span .labeledStatement (leaf .statementIdentifier ++ mark ":" ++ child (finalStatement g))

/-- The statement that a keyword opens, if it opens one. -/
def keywordStatement? (g : Grammar) (t : Token) : Option (Rule Node) :=
  if t.isWord "if" then some (ifStatement g)
  else if t.isWord "for" then some (forStatement g)
  else if t.isWord "while" then some (whileStatement g)
  else if t.isWord "do" then some (doStatement g)
  else if t.isWord "switch" then some (switchStatement g)
  else if t.isWord "try" then some (tryStatement g)
  else if t.isWord "with" then
    some (span .withStatement (word "with" ++ child (condition g) ++ child (finalStatement g)))
  else if t.isWord "return" then
    some (jumpStatement .returnStatement (child (g.goal (.expression true))))
  else if t.isWord "throw" then
    some (jumpStatement .throwStatement (child (g.goal (.expression true))))
  else if t.isWord "break" then some (jumpStatement .breakStatement (leaf .statementIdentifier))
  else if t.isWord "continue" then
    some (jumpStatement .continueStatement (leaf .statementIdentifier))
  else if t.isWord "debugger" then some (span .debuggerStatement (anyToken ++ semicolon))
  else none

/-- A statement that opens with a word. -/
def wordStatement (g : Grammar) (t : Token) : Rule Node := do
  match keywordStatement? g t with
  | some rule => rule
  | none =>
    if t.isWord "export" then exportStatement g (← here) []
    else if t.isWord "import" && !(← secondToken fun u => u.isMark "(" || u.isMark ".") then
      importStatement g
    else if t.isName && (← secondToken (Token.isMark ":")) then labeledStatement g
    else
      match ← declaration? g with
      | some n => return n
      | none => expressionStatement g

/-- A statement. -/
def statement (g : Grammar) : Rule Node := do
  let t ← ahead
  if t.isAnyWord then wordStatement g t
  else if t.isMark "\x7b" then bracedStatement g
  else if t.isMark ";" then span .emptyStatement anyToken
  else if t.isMark "@" then
    let start ← here
    let before ← get
    let decorated ← decorators g
    if ← seesWord "export" then exportStatement g start decorated
    else
      set before
      match ← declaration? g with
      | some n => return n
      | none => expressionStatement g
  else expressionStatement g

end ComponentIndex.Script.Grammar
