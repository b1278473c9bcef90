/-
**Expressions.**

Main definitions:

* `ComponentIndex.Script.Grammar.primary` — literals, names, functions and what brackets enclose;
* `ComponentIndex.Script.Grammar.suffixes` — member accesses and calls;
* `ComponentIndex.Script.Grammar.unary`, `ComponentIndex.Script.Grammar.binaryRest` — operators;
* `ComponentIndex.Script.Grammar.operand`, `ComponentIndex.Script.Grammar.expression` — expressions
  without and with commas.
-/

import ComponentIndex.Script.Grammar.Function
import ComponentIndex.Script.Grammar.Markup

set_option relaxedAutoImplicit false
set_option autoImplicit false

namespace ComponentIndex.Script.Grammar

open Rule

/-! ### Regular expressions and templates -/

/-- The place behind the slash that closes a regular expression, which starts at the given place;
inside a class of characters a slash closes nothing. -/
def regexBodyEnd? (m : Mark) : Option Mark := go false m.rest m.offset
where
  /-- The search, with the bytes passed so far. -/
  go (inClass : Bool) : List Glyph → Nat → Option Mark
    | [], _ => none
    | g :: rest, offset =>
      if g.is '\n' then none
      else if g.is '\\' then
        match rest with
        | [] => none
        | h :: rest' =>
          if h.is '\n' then none else go inClass rest' (offset + g.width + h.width)
      else if g.is '[' then go true rest (offset + g.width)
      else if g.is ']' then go false rest (offset + g.width)
      else if g.is '/' && !inClass then some ⟨rest, offset + g.width⟩
      else go inClass rest (offset + g.width)

/-- A regular expression. -/
def regexLiteral : Rule Node := do
  let m ← here
  let some close := regexBodyEnd? m.next | failure
  let stop := close.skipWhile (·.isBetween 'a' 'z')
  resume false stop
  return nodeBetween .regex m stop []

/-- The substitutions of a template from the given place on, read in at most `fuel` pieces. Ends
behind the closing backtick. -/
def templateParts (g : Grammar) : Nat → Mark → Rule (List Node)
  | 0, _ => failure
  | fuel + 1, from' => do
    let m := from'.skipGlyphs fun c => !(c.is '\x60' || c.is '\\' || c.is '$')
    if m.sees '\x60' then
      resume false m.next
      return []
    else if m.sees '\\' then
      if m.next.atEnd then failure
      templateParts g fuel (m.skip 2)
    else if m.sees '$' then
      if m.next.sees '\x7b' then
        resume true (m.skip 2)
        let inner ← child (g.goal (.expression true)) ++ comments
        let close ← ahead
        if !close.isMark "\x7d" then failure
        let n := nodeBetween .templateSubstitution m close.stop
          ([nodeBetween (.token "$\x7b") m (m.skip 2) []] ++ inner ++
            [nodeBetween (.token "\x7d") close.start close.stop []])
        let rest ← templateParts g fuel close.stop
        return n :: rest
      else templateParts g fuel m.next
    else failure

/-- A template literal. -/
def templateLiteral (g : Grammar) : Rule Node := do
  let m ← here
  if !m.sees '\x60' then failure
  let parts ← templateParts g (← get).fuel m.next
  finish .templateString m parts

/-! ### Arrow functions -/

/-- An arrow function from its arrow on; `before` is what has been read since `start`. Braces are its
body if they can be, and else an object literal. -/
def arrowFrom (g : Grammar) (start : Mark) (before : List Node) : Rule Node := do
  let arrow ← mark "=>"
  let body ← child do
    if ← seesMark "\x7b" then block g <|> g.goal (.operand true) else g.goal (.operand true)
  finish .arrowFunction start (before ++ arrow ++ body)

/-- An item between parentheses that may turn out to be parameters. -/
def parenthesizedItem (g : Grammar) : Rule Node := do
  if ← seesMark "..." then spreadElement g else g.goal (.operand true)

/-- The parentheses enclose an expression: nothing is spread or missing. -/
def isExpressionList (items : List Node) : Bool :=
  items.all (fun n => n.kind ≠ .spreadElement) &&
    (items.filter fun n => n.kind.isNamed && n.kind ≠ .comment).length ==
      (items.filter fun n => n.kind = .token ",").length + 1

/-- Items with commas between them as one expression. -/
def sequenceOf (start stop : Mark) (items : List Node) : List Node :=
  if items.any fun n => n.kind = .token "," then
    [nodeBetween .sequenceExpression start stop items]
  else items

/-- An expression in parentheses, or an arrow function whose parameters they enclose. -/
def parenthesized (g : Grammar) : Rule Node := do
  let start ← here
  let opening ← mark "(" ++ comments
  let inner ← here
  let items ← listUntil ")" (child (parenthesizedItem g)) g.fuel
  let innerStop ← behind
  let closing ← mark ")"
  if ← seesMark "=>" then
    let parameters ← finish .formalParameters start (opening ++ Node.toPatterns items ++ closing)
    arrowFrom g start [parameters]
  else if isExpressionList items then
    finish .parenthesizedExpression start (opening ++ sequenceOf inner innerStop items ++ closing)
  else failure

/-- A name, or an arrow function whose only parameter it is. -/
def nameOrArrow (g : Grammar) : Rule Node := do
  let start ← here
  let name ← identifier
  if ← seesMark "=>" then arrowFrom g start [name]
  else if name.text = Text.ofString "undefined" then return { name with kind := .undefinedName }
  else return name

/-- An asynchronous arrow function. -/
def asyncArrow (g : Grammar) : Rule Node := do
  let start ← here
  let keyword ← word "async"
  if (← ahead).isName then
    let name ← child identifier
    arrowFrom g start (keyword ++ name)
  else
    let parameters ← child (formalParameters g)
    arrowFrom g start (keyword ++ parameters)

/-- What begins with the word `async`: a function, an arrow function, or the name itself. -/
def asyncPrimary (g : Grammar) : Rule Node := do
  let start ← here
  let before ← get
  let keyword ← word "async"
  let t ← ahead
  if t.isWord "function" && !t.afterNewline then functionFrom g false start keyword
  else
    set before
    if (t.isName || t.isMark "(") && !t.afterNewline then asyncArrow g <|> nameOrArrow g
    else nameOrArrow g

/-! ### Primary expressions -/

/-- An array literal. -/
def arrayLiteral (g : Grammar) : Rule Node :=
  span .array (mark "[" ++ listUntil "]" (child (parenthesizedItem g)) g.fuel ++ mark "]")

/-- The keyword `import` as an operand: the called function, or a part of `import.meta`. -/
def importPrimary : Rule Node := do
  let start ← here
  let keyword ← leaf .importKeyword
  if ← seesMark "." then
    let before ← get
    let dot ← mark "."
    if ← seesWord "meta" then
      let name ← anyToken
      finish .metaProperty start (keyword ++ dot ++ name)
    else
      set before
      finish .importKeyword start []
  else finish .importKeyword start []

/-- The kind of a keyword that is an operand by itself. -/
def operandKeywords : List (Text × Kind) :=
  [("this", .thisExpression), ("super", .superExpression), ("null", .nullLiteral),
    ("true", .trueLiteral), ("false", .falseLiteral)]

/-- An operand that begins with a word. -/
def wordPrimary (g : Grammar) : Rule Node := do
  let t ← ahead
  match operandKeywords.lookup t.text with
  | some kind => single kind
  | none =>
    let start ← here
    if t.isWord "function" then functionFrom g false start []
    else if t.isWord "async" then asyncPrimary g
    else if t.isWord "class" then classFrom g false start []
    else if t.isWord "import" then importPrimary
    else nameOrArrow g

/-- An operand without prefix operators, member accesses and calls. -/
def primary (g : Grammar) : Rule Node := do
  let t ← ahead
  match t.kind with
  | .word => wordPrimary g
  | .number => single .number
  | .string _ => stringLiteral
  | .privateWord => single .privatePropertyIdentifier
  | .punctuation =>
    if t.isMark "(" then parenthesized g
    else if t.isMark "[" then arrayLiteral g
    else if t.isMark "\x7b" then objectLiteral g
    else if t.isMark "`" then templateLiteral g
    else if t.isMark "/" || t.isMark "/=" then regexLiteral
    else if t.isMark "<" then g.goal .markup
    else if t.isMark "@" then
      let start ← here
      let decorated ← decorators g
      classFrom g false start decorated
    else failure
  | _ => failure

/-! ### Member accesses and calls -/

/-- The arguments of a call. -/
def callArguments (g : Grammar) : Rule Node :=
  span .arguments (mark "(" ++ listUntil ")" (child (parenthesizedItem g)) g.fuel ++ mark ")")

/-- The name of an accessed member. -/
def memberName : Rule Node := do
  let t ← ahead
  match t.kind with
  | .word => single .propertyIdentifier
  | .privateWord => single .privatePropertyIdentifier
  | _ => failure

/-- A computed access to a member of `base`; `link` is the optional link before it. -/
def subscriptOf (g : Grammar) (start : Mark) (base : Node) (link : List Node) : Rule Node := do
  let rest ← mark "[" ++ child (g.goal (.expression true)) ++ mark "]"
  finish .subscriptExpression start (base.withRole .object :: (link ++ rest))

/-- A call of `base`; `link` is the optional link before the arguments. -/
def callOf (g : Grammar) (start : Mark) (base : Node) (link : List Node) : Rule Node := do
  let args ← childAs .arguments (callArguments g)
  finish .callExpression start (base.withRole .function :: (link ++ args))

/-- The accesses and calls that follow `base`, at most `fuel` of them; without `calls` the
parentheses are left for an enclosing `new`. -/
def suffixes (g : Grammar) (calls : Bool) (start : Mark) : Nat → Node → Rule Node
  | 0, _ => failure
  | fuel + 1, base => do
    let t ← ahead
    if t.isMark "." then
      let rest ← mark "." ++ childAs .property memberName
      suffixes g calls start fuel
        (← finish .memberExpression start (base.withRole .object :: rest))
    else if t.isMark "?." && calls then
      let link ← leaf .optionalChain
      let next ← do
        if ← seesMark "(" then callOf g start base link
        else if ← seesMark "[" then subscriptOf g start base link
        else
          let property ← childAs .property memberName
          finish .memberExpression start (base.withRole .object :: (link ++ property))
      suffixes g calls start fuel next
    else if t.isMark "[" then
      suffixes g calls start fuel (← subscriptOf g start base (← comments))
    else if t.isMark "(" && calls then
      suffixes g calls start fuel (← callOf g start base (← comments))
    else if t.isMark "`" then
      let template ← childAs .arguments (templateLiteral g)
      suffixes g calls start fuel
        (← finish .callExpression start (base.withRole .function :: template))
    else return base

/-- A `new` expression without the accesses and calls that may follow it, or `new.target`. -/
def construction (g : Grammar) : Rule Node := do
  let start ← here
  let keyword ← word "new"
  if ← seesMark "." then
    let rest ← mark "." ++ word "target"
    finish .metaProperty start (keyword ++ rest)
  else
    let callee ← childAs .constructor do
      let inner ← here
      let base ← if ← seesWord "new" then g.goal .construction else primary g
      suffixes g false inner g.fuel base
    let args ← if ← seesMark "(" then childAs .arguments (callArguments g) else pure []
    finish .newExpression start (keyword ++ callee ++ args)

/-- An operand with its accesses and calls. -/
def leftHandSide (g : Grammar) : Rule Node := do
  let start ← here
  let base ← if ← seesWord "new" then construction g else primary g
  suffixes g true start g.fuel base

/-! ### Operators -/

/-- A word that is a prefix operator. -/
def prefixWords : List Text := ["typeof", "void", "delete"].map Text.ofString

/-- A sign that is a prefix operator. -/
def prefixSigns : List Text := ["!", "~", "-", "+"].map Text.ofString

/-- An operand with its prefix and postfix operators. -/
def unary (g : Grammar) : Rule Node := do
  let t ← ahead
  let sign? : Option Text :=
    match t.kind with
    | .punctuation => some t.text
    | _ => none
  if sign?.any prefixSigns.contains || (t.isAnyWord && prefixWords.contains t.text) then
    span .unaryExpression (anyToken ++ child (g.goal .unary))
  else if t.isWord "await" then span .awaitExpression (anyToken ++ child (g.goal .unary))
  else if t.isMark "++" || t.isMark "--" then
    span .updateExpression (anyToken ++ child (g.goal .unary))
  else
    let start ← here
    let e ← leftHandSide g
    let after ← ahead
    if (after.isMark "++" || after.isMark "--") && !after.afterNewline then
      let sign ← anyToken
      finish .updateExpression start (e :: sign)
    else return e

/-- The binding strength of the binary operators. -/
def binaryStrengths : List (Text × Nat) :=
  [("??", 1), ("||", 2), ("&&", 3), ("|", 4), ("^", 5), ("&", 6), ("==", 7), ("!=", 7), ("===", 7),
    ("!==", 7), ("<", 8), (">", 8), ("<=", 8), (">=", 8), ("instanceof", 8), ("in", 8), ("<<", 9),
    (">>", 9), (">>>", 9), ("+", 10), ("-", 10), ("*", 11), ("/", 11), ("%", 11), ("**", 12)]

/-- The binding strength of a token that is a binary operator. -/
def strength? (allowIn : Bool) (t : Token) : Option Nat :=
  match t.kind with
  | .punctuation => binaryStrengths.lookup t.text
  | .word => if t.isWord "in" && !allowIn then none else binaryStrengths.lookup t.text
  | _ => none

/-- The binary operators of at least the given strength that follow `left`, with their operands; at
most `fuel` of them. Powers group from the right. -/
def binaryRest (g : Grammar) (allowIn : Bool) : Nat → Nat → Mark → Node → Rule Node
  | 0, _, _, _ => failure
  | fuel + 1, least, start, left => do
    match strength? allowIn (← ahead) with
    | none => return left
    | some s =>
      if s < least then return left
      let sign ← anyToken
      let right ← child do
        let inner ← here
        let e ← unary g
        binaryRest g allowIn fuel (if s = 12 then 12 else s + 1) inner e
      let whole ← finish .binaryExpression start (left :: (sign ++ right))
      binaryRest g allowIn fuel least start whole

/-- A conditional expression, or what stands in its place. -/
def conditional (g : Grammar) (allowIn : Bool) : Rule Node := do
  let start ← here
  let first ← unary g
  let condition ← binaryRest g allowIn g.fuel 0 start first
  if ← seesMark "?" then
    let rest ← mark "?" ++ child (g.goal (.operand true)) ++ mark ":" ++
      child (g.goal (.operand allowIn))
    finish .ternaryExpression start (condition :: rest)
  else return condition

/-- The operators that assign the result of another operator. -/
def augmentedSigns : List Text :=
  ["+=", "-=", "*=", "/=", "%=", "**=", "<<=", ">>=", ">>>=", "&=", "|=", "^=", "&&=", "||=",
    "??="].map Text.ofString

/-- Nothing is yielded before this token. -/
def endsYield (t : Token) : Bool :=
  t.isEnd || t.afterNewline || t.isMark ")" || t.isMark "]" || t.isMark "\x7d" || t.isMark "," ||
    t.isMark ";" || t.isMark ":"

/-- A `yield` expression. -/
def yieldExpression (g : Grammar) (allowIn : Bool) : Rule Node :=
  span .yieldExpression do
    let keyword ← word "yield"
    let star ← mark? "*"
    if star.isEmpty && endsYield (← ahead) then return keyword
    let value ← child (g.goal (.operand allowIn))
    return keyword ++ star ++ value

/-- An expression without commas. -/
def operand (g : Grammar) (allowIn : Bool) : Rule Node := do
  if ← seesWord "yield" then yieldExpression g allowIn
  else
    let start ← here
    let left ← conditional g allowIn
    let t ← ahead
    if t.isMark "=" then
      let rest ← mark "=" ++ child (g.goal (.operand allowIn))
      finish .assignmentExpression start (left.toPattern :: rest)
    else if t.kind matches .punctuation && augmentedSigns.contains t.text then
      let rest ← anyToken ++ child (g.goal (.operand allowIn))
      finish .augmentedAssignmentExpression start (left :: rest)
    else return left

/-- The further expressions after commas. -/
def moreExpressions (g : Grammar) (allowIn : Bool) : Rule (List Node) :=
  repeatUntil (fun t => !t.isMark ",") (mark "," ++ child (operand g allowIn)) g.fuel

/-- An expression or several with commas between them. -/
def expression (g : Grammar) (allowIn : Bool) : Rule Node := do
  let start ← here
  let first ← operand g allowIn
  if ← seesMark "," then
    let rest ← moreExpressions g allowIn
    finish .sequenceExpression start (first :: rest)
  else return first

end ComponentIndex.Script.Grammar
