/-
**The value of a string literal.**

A string literal is a row of fragments, which stand for themselves, and escape sequences.  A line
end after the backslash continues the line and adds nothing; a hexadecimal, a braced or an octal
escape names a code point; six letters name control characters; any other character stands for
itself.  Surrogate pairs spelled by two escapes are joined at the end.

Main definitions:

* `ComponentIndex.Script.decodeEscape` — what the text after a backslash stands for;
* `ComponentIndex.Script.Node.stringValue?` — the value of a string literal;
* `ComponentIndex.Script.Node.unquotedText` — its spelling without the quotes.
-/

import ComponentIndex.Script.Node
import ComponentIndex.Text.Quoted
import ComponentIndex.Text.Utf16

set_option relaxedAutoImplicit false
set_option autoImplicit false

namespace ComponentIndex.Script

/-- A character that ends a line in a script. -/
def isLineTerminator (c : CodePoint) : Bool :=
  c.val = 0x0A || c.val = 0x0D || c.val = 0x2028 || c.val = 0x2029

/-- The hexadecimal digits of an escape that names a code point by them: `x` and two digits, `u` and
four, or `u` and any number of digits in braces. -/
def hexEscapeDigits? (body : Text) : Option Text :=
  match body with
  | [] => none
  | c :: digits =>
    if c = ('x' : CodePoint) then
      if digits.length = 2 && digits.all CodePoint.isHexDigit then some digits else none
    else if c = ('u' : CodePoint) then
      match digits with
      | [] => none
      | d :: inner =>
        if d = ('\x7b' : CodePoint) then
          if inner.getLast? = some ('\x7d' : CodePoint) && 2 ≤ inner.length &&
              inner.dropLast.all CodePoint.isHexDigit then some inner.dropLast
          else none
        else if digits.length = 4 && digits.all CodePoint.isHexDigit then some digits
        else none
    else none

/-- One to three octal digits. -/
def isOctalEscape (body : Text) : Bool :=
  body != [] && body.length ≤ 3 && body.all CodePoint.isOctalDigit

/-- The control character that a letter names after a backslash. -/
def controlOfLetter? (c : CodePoint) : Option CodePoint :=
  if c = ('n' : CodePoint) then some '\n'
  else if c = ('t' : CodePoint) then some '\t'
  else if c = ('r' : CodePoint) then some '\r'
  else if c = ('b' : CodePoint) then some '\x08'
  else if c = ('f' : CodePoint) then some '\x0c'
  else if c = ('v' : CodePoint) then some '\x0b'
  else none

/-- What an escape sequence stands for, given the text after its backslash. -/
def decodeEscape (body : Text) : Text :=
  match body with
  | [] => []
  | c :: rest =>
    if isLineTerminator c then []
    else
      match hexEscapeDigits? body with
      | some digits =>
        match CodePoint.ofNat? (Text.hexValue digits) with
        | some p => [p]
        | none => body
      | none =>
        if isOctalEscape body then
          match CodePoint.ofNat? (Text.digitValue 8 body) with
          | some p => [p]
          | none => body
        else if rest = [] then
          match controlOfLetter? c with
          | some p => [p]
          | none => body
        else body

namespace Node

/-- What a child of a string literal adds to its value. -/
def fragmentValue (n : Node) : Text :=
  match n.kind with
  | .stringFragment => n.text
  | .escapeSequence => decodeEscape (n.text.drop 1)
  | _ => []

/-- The values of the children of a string literal, one after the other. -/
def spelledValue (n : Node) : Text := n.children.flatMap fragmentValue

/-- The value of a string literal; other nodes have none. -/
def stringValue? (n : Node) : Option Text :=
  if n.kind = .string then some (Utf16.joinPairs n.spelledValue) else none

/-- The text of a node without quotes around it, escapes left as they are spelled. -/
def unquotedText (n : Node) : Text := n.text.unquoted

end Node

end ComponentIndex.Script
