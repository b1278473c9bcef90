/-
**Tokens of a script.**

A script is read token by token.  Which token a slash, a backtick or an angle bracket opens depends
on what the grammar expects there; such a token is therefore read as plain punctuation, and read
again from its first character by the rule that knows better.

Main definitions:

* `ComponentIndex.Script.Token` — a token, the comments before it, and whether a line ends there;
* `ComponentIndex.Script.Token.read` — the next token from a place;
* `ComponentIndex.Script.scanString?` — a string literal, as fragments and escape sequences.
-/

import ComponentIndex.Script.Node
import ComponentIndex.Text.Mark

set_option relaxedAutoImplicit false
set_option autoImplicit false

namespace ComponentIndex.Script

/-! ### Classes of characters -/

/-- White space between tokens, line ends included. -/
def isSpace (c : CodePoint) : Bool :=
  let n := c.val
  (0x09 ≤ n && n ≤ 0x0D) || n == 0x20 || n == 0xA0 || n == 0x1680 || (0x2000 ≤ n && n ≤ 0x200B) ||
    n == 0x2028 || n == 0x2029 || n == 0x202F || n == 0x205F || n == 0x2060 || n == 0x3000 ||
    n == 0xFEFF

/-- A line end that can stand for a semicolon; a carriage return alone is none. -/
def isNewline (c : CodePoint) : Bool := c.val = 0x0A || c.val = 0x2028 || c.val = 0x2029

/-- A character that ends a comment to the end of the line. -/
def endsLineComment (c : CodePoint) : Bool := c.val = 0x0D || isNewline c

/-- A character that can stand in a name: anything but controls, spaces and the punctuation of the
basic plane. -/
def isNamePart (c : CodePoint) : Bool :=
  0x20 ≤ c.val && !isSpace c &&
    !(Text.ofString ":;`\"'@#.,|^&<=>+-*/\\%?!~()[]\x7b\x7d").contains c

/-- A character that can open a name. -/
def isNameStart (c : CodePoint) : Bool := isNamePart c && !c.isDigit

/-! ### Tokens -/

/-- What a token is. -/
inductive TokenKind where
  /-- A name or a keyword. -/
  | word
  /-- A name with a number sign before it. -/
  | privateWord
  /-- A number. -/
  | number
  /-- A string literal, with its fragments and escape sequences. -/
  | string (parts : List Node)
  /-- Punctuation. -/
  | punctuation
  /-- The end of the source. -/
  | endOfSource
  /-- Something that opens no token. -/
  | invalid

/-- A token with what precedes it. -/
structure Token where
  /-- What the token is. -/
  kind : TokenKind
  /-- Its text. -/
  text : Text
  /-- Where it starts. -/
  start : Mark
  /-- Where it ends. -/
  stop : Mark
  /-- The comments between the previous token and this one. -/
  comments : List Node
  /-- A line ends between the previous token and this one, outside of comments. -/
  afterNewline : Bool
  /-- A comment before the token holds a line end, or runs to the end of its line. -/
  afterBreakingComment : Bool

namespace Token

/-- The token is a word with the given text. -/
def isWord (text : Text) (t : Token) : Bool :=
  match t.kind with
  | .word => t.text == text
  | _ => false

/-- The token is punctuation with the given text. -/
def isMark (text : Text) (t : Token) : Bool :=
  match t.kind with
  | .punctuation => t.text == text
  | _ => false

/-- The token is a name or a keyword. -/
def isAnyWord (t : Token) : Bool :=
  match t.kind with
  | .word => true
  | _ => false

/-- The token is the end of the source. -/
def isEnd (t : Token) : Bool :=
  match t.kind with
  | .endOfSource => true
  | _ => false

end Token

/-- A node that spans the text between two places. -/
def nodeBetween (kind : Kind) (start stop : Mark) (children : List Node) : Node :=
  ⟨kind, none, start.offset, start.textTo stop, children⟩

/-! ### White space and comments -/

/-- The place behind a block comment whose opening has been passed, if it is closed. -/
def blockCommentEnd? (m : Mark) : Option Mark := go m.rest m.offset
where
  /-- The search for the closing, with the bytes passed so far. -/
  go : List Glyph → Nat → Option Mark
    | [], _ => none
    | g :: rest, offset =>
      if g.is '*' && rest.head?.any (·.is '/') then some ⟨rest.tail, offset + g.width + 1⟩
      else go rest (offset + g.width)

/-- The comment at a place and the place behind it. Comments in the style of markup are only seen
where no operator can stand. -/
def comment? (operand : Bool) (m : Mark) : Option (Node × Mark) :=
  if m.startsWith "//" then
    let stop := m.skipGlyphs fun g => !g.satisfies endsLineComment
    some (nodeBetween .comment m stop [], stop)
  else if m.startsWith "/*" then
    (blockCommentEnd? (m.skip 2)).map fun stop => (nodeBetween .comment m stop [], stop)
  else if operand && (m.startsWith "<!--" || m.startsWith "-->") then
    let stop := m.skipGlyphs fun g => !g.satisfies isNewline
    some (nodeBetween .markupComment m stop [], stop)
  else none

/-- What lies between two tokens. -/
structure Gap where
  /-- The comments. -/
  comments : List Node
  /-- A line ends outside of comments. -/
  newline : Bool
  /-- A comment holds a line end, or runs to the end of its line. -/
  breaking : Bool
  /-- Where the next token starts. -/
  stop : Mark

/-- A comment that ends a line: one to the end of its line, or one that spans several. -/
def isBreakingComment (n : Node) : Bool :=
  !(Text.ofString "/*").isPrefixOf n.text || n.text.any isNewline

/-- The gap at a place, read in at most `fuel` pieces. -/
def readGap (operand : Bool) : Nat → Mark → Gap
  | 0, m => ⟨[], false, false, m⟩
  | fuel + 1, m =>
    let behind := m.skipWhile isSpace
    let newline := (m.glyphsTo behind.offset).any (·.satisfies isNewline)
    match comment? operand behind with
    | none => ⟨[], newline, false, behind⟩
    | some (node, stop) =>
      let gap := readGap operand fuel stop
      ⟨node :: gap.comments, newline || gap.newline, isBreakingComment node || gap.breaking,
        gap.stop⟩

/-! ### Names -/

/-- The place behind an escape for a character of a name. -/
def nameEscapeEnd? (m : Mark) : Option Mark :=
  match m.skipText? "\\u" with
  | none => none
  | some digits =>
    if digits.sees '\x7b' then
      let stop := digits.next.skipWhile CodePoint.isHexDigit
      if stop.sees '\x7d' && stop.offset != digits.next.offset then some stop.next else none
    else
      let four := digits.skip 4
      if four.offset = digits.offset + 4 &&
          (digits.glyphsTo four.offset).all (·.satisfies CodePoint.isHexDigit) then some four
      else none

/-- The place behind a name whose first characters have been passed, read in at most `fuel` runs. -/
def nameEnd : Nat → Mark → Mark
  | 0, m => m
  | fuel + 1, m =>
    let behind := m.skipWhile isNamePart
    match nameEscapeEnd? behind with
    | some stop => nameEnd fuel stop
    | none => behind

/-- The place behind the name at a place, if there is one. -/
def nameEnd? (fuel : Nat) (m : Mark) : Option Mark :=
  if m.seesAny isNameStart then some (nameEnd fuel m.next)
  else (nameEscapeEnd? m).map (nameEnd fuel)

/-! ### Numbers -/

/-- The place behind digits that single underscores may separate. -/
def digitsEnd (p : CodePoint → Bool) (m : Mark) : Mark := go m.rest m.offset
where
  /-- The search, with the bytes passed so far. -/
  go : List Glyph → Nat → Mark
    | [], offset => ⟨[], offset⟩
    | g :: rest, offset =>
      if g.satisfies p then go rest (offset + g.width)
      else if g.is '_' && rest.head?.any (·.satisfies p) then go rest (offset + g.width)
      else ⟨g :: rest, offset⟩

/-- The place behind an exponent, or the given place if none follows. -/
def exponentEnd (m : Mark) : Mark :=
  if m.sees 'e' || m.sees 'E' then
    let signed := if m.next.sees '+' || m.next.sees '-' then m.next.next else m.next
    if signed.seesAny CodePoint.isDigit then digitsEnd CodePoint.isDigit signed else m
  else m

/-- The place behind digits in a base that a letter after a zero announces. -/
def basedNumberEnd? (m : Mark) : Option Mark :=
  if !m.sees '0' then none
  else
    let digits? : Option (CodePoint → Bool) :=
      if m.next.sees 'x' || m.next.sees 'X' then some CodePoint.isHexDigit
      else if m.next.sees 'o' || m.next.sees 'O' then some CodePoint.isOctalDigit
      else if m.next.sees 'b' || m.next.sees 'B' then some (·.isBetween '0' '1')
      else none
    match digits? with
    | none => none
    | some p =>
      let body := m.next.next
      if body.seesAny p then some (digitsEnd p body) else none

/-- The place behind the suffix of a big integer, if it follows. -/
def bigSuffixEnd (m : Mark) : Mark := if m.sees 'n' then m.next else m

/-- The place behind the number at a place, if there is one. -/
def numberEnd? (m : Mark) : Option Mark :=
  match basedNumberEnd? m with
  | some stop => some (bigSuffixEnd stop)
  | none =>
    if m.seesAny CodePoint.isDigit then
      let whole := digitsEnd CodePoint.isDigit m
      if whole.sees 'n' then some whole.next
      else if whole.sees '.' then
        let fraction :=
          if whole.next.seesAny CodePoint.isDigit then digitsEnd CodePoint.isDigit whole.next
          else whole.next
        some (exponentEnd fraction)
      else some (exponentEnd whole)
    else if m.sees '.' && m.next.seesAny CodePoint.isDigit then
      some (exponentEnd (digitsEnd CodePoint.isDigit m.next))
    else none

/-! ### String literals -/

/-- The place behind the hexadecimal digits of an escape, the number of which is given. -/
def hexDigitsEnd? (count : Nat) (m : Mark) : Option Mark :=
  let stop := m.skip count
  let digits := m.glyphsTo stop.offset
  if digits.length = count && digits.all (·.satisfies CodePoint.isHexDigit) then some stop else none

/-- The place behind an escape sequence whose backslash has been passed. -/
def escapeEnd? (m : Mark) : Option Mark :=
  match m.rest with
  | [] => none
  | g :: _ =>
    if g.is 'x' then hexDigitsEnd? 2 m.next
    else if g.is 'u' then
      if m.next.sees '\x7b' then
        let stop := m.next.next.skipWhile CodePoint.isHexDigit
        if stop.sees '\x7d' && stop.offset != m.next.next.offset then some stop.next else none
      else hexDigitsEnd? 4 m.next
    else if g.satisfies CodePoint.isOctalDigit then
      let second := m.next
      if second.seesAny CodePoint.isOctalDigit then
        if second.next.seesAny CodePoint.isOctalDigit then some second.next.next
        else some second.next
      else some second
    else if (g.is '\r' || g.is '?') && m.next.seesAny isNewline then some m.next.next
    else some m.next

/-- The fragments and escape sequences of a string literal up to its closing quote, and the place
behind that quote; read in at most `fuel` pieces. -/
def stringParts? (quote : CodePoint) : Nat → Mark → Option (List Node × Mark)
  | 0, _ => none
  | fuel + 1, m =>
    if m.sees quote then some ([], m.next)
    else if m.sees '\\' then
      match escapeEnd? m.next with
      | none => none
      | some stop =>
        (stringParts? quote fuel stop).map fun (parts, close) =>
          (nodeBetween .escapeSequence m stop [] :: parts, close)
    else
      let stop := m.skipGlyphs fun g =>
        !(g.is quote || g.is '\\' || g.is '\n' || g.is '\r')
      if stop.offset = m.offset then none
      else
        (stringParts? quote fuel stop).map fun (parts, close) =>
          (nodeBetween .stringFragment m stop [] :: parts, close)

/-- The string literal that opens at a place. -/
def scanString? (fuel : Nat) (m : Mark) : Option (List Node × Mark) :=
  match m.point? with
  | none => none
  | some quote => stringParts? quote fuel m.next

/-! ### The next token -/

/-- The punctuation of scripts, longer texts before their beginnings. -/
def punctuators : List Text :=
  [">>>=", "...", "===", "!==", "**=", "<<=", ">>=", ">>>", "&&=", "||=", "??=", "=>", "==", "!=",
    "<=", ">=", "&&", "||", "??", "?.", "++", "--", "+=", "-=", "*=", "/=", "%=", "&=", "|=", "^=",
    "<<", ">>", "**", "\x7b", "\x7d", "(", ")", "[", "]", ";", ",", "<", ">", "+", "-", "*", "/",
    "%", "&", "|", "^", "!", "~", "?", ":", "=", "@", ".", "`"].map Text.ofString

/-- The punctuation at a place. A question mark before a fraction opens no optional link. -/
def punctuationEnd? (m : Mark) : Option Mark :=
  if m.startsWith "?." && (m.skip 2).seesAny CodePoint.isDigit then some m.next
  else punctuators.findSome? fun p => m.skipText? p

/-- The token that starts at a place, which no gap precedes. -/
def tokenAt (fuel : Nat) (m : Mark) : TokenKind × Mark :=
  if m.atEnd then (.endOfSource, m)
  else
    match nameEnd? fuel m with
    | some stop => (.word, stop)
    | none =>
      match numberEnd? m with
      | some stop => (.number, stop)
      | none =>
        if m.sees '"' || m.sees '\'' then
          match scanString? fuel m with
          | some (parts, stop) => (.string parts, stop)
          | none => (.invalid, m.next)
        else if m.sees '#' then
          match nameEnd? fuel m.next with
          | some stop => (.privateWord, stop)
          | none => (.invalid, m.next)
        else
          match punctuationEnd? m with
          | some stop => (.punctuation, stop)
          | none => (.invalid, m.next)

/-- The next token from a place; `operand` tells that no operator can stand there. The source holds
fewer than `fuel` glyphs, which bounds every loop within a token. -/
def Token.read (fuel : Nat) (operand : Bool) (m : Mark) : Token :=
  let gap := readGap operand fuel m
  let (kind, stop) := tokenAt fuel gap.stop
  { kind, stop,
    text := gap.stop.textTo stop
    start := gap.stop
    comments := gap.comments
    afterNewline := gap.newline
    afterBreakingComment := gap.breaking }

end ComponentIndex.Script
