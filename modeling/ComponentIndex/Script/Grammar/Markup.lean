/-
**Markup inside scripts.**

A script can hold markup elements where an operand is expected.  Between their tags text stands for
itself, so markup is read glyph by glyph, and the tokens of the script only come back inside braces.

Main definitions:

* `ComponentIndex.Script.Grammar.markupName?` — the name of an element;
* `ComponentIndex.Script.Grammar.markupString?` — the quoted value of an attribute;
* `ComponentIndex.Script.Grammar.markupElement` — an element with its attributes and content.
-/

import ComponentIndex.Script.Grammar.Rule

set_option relaxedAutoImplicit false
set_option autoImplicit false

namespace ComponentIndex.Script.Grammar

open Rule

/-! ### Names and quoted values -/

/-- A character of a markup name: a character of a name, or a hyphen. -/
def isMarkupNamePart (c : CodePoint) : Bool := isNamePart c || c = ('-' : CodePoint)

/-- A simple markup name, as a node of the given kind. -/
def simpleMarkupName? (kind : Kind) (m : Mark) : Option (Node × Mark) :=
  if m.seesAny isNameStart then
    let stop := m.next.skipWhile isMarkupNamePart
    some (nodeBetween kind m stop [], stop)
  else none

/-- A name followed by accesses to members, at most `fuel` of them. -/
def markupMembers (start : Mark) : Nat → Node → Mark → Node × Mark
  | 0, n, m => (n, m)
  | fuel + 1, n, m =>
    if m.sees '.' then
      match simpleMarkupName? .propertyIdentifier m.next with
      | some (property, stop) =>
        let access := nodeBetween .memberExpression start stop
          [n.withRole .object, nodeBetween (.token ".") m m.next [], property.withRole .property]
        markupMembers start fuel access stop
      | none => (n, m)
    else (n, m)

/-- The name of an element: a simple name, a member of a name, or a name in a namespace. -/
def markupName? (fuel : Nat) (m : Mark) : Option (Node × Mark) :=
  match simpleMarkupName? .identifier m with
  | none => none
  | some (n, stop) =>
    if stop.sees ':' then
      match simpleMarkupName? .identifier stop.next with
      | none => none
      | some (inner, close) =>
        some (nodeBetween .markupNamespaceName m close
          [n, nodeBetween (.token ":") stop stop.next [], inner], close)
    else some (markupMembers m fuel n stop)

/-- The name of an attribute: a simple name, or a name in a namespace. -/
def attributeName? (m : Mark) : Option (Node × Mark) :=
  match simpleMarkupName? .propertyIdentifier m with
  | none => none
  | some (n, stop) =>
    if stop.sees ':' then
      match simpleMarkupName? .identifier stop.next with
      | none => none
      | some (inner, close) =>
        some (nodeBetween .markupNamespaceName m close
          [{ n with kind := .identifier }, nodeBetween (.token ":") stop stop.next [], inner],
          close)
    else some (n, stop)

/-- The place behind a character reference, if one stands here. -/
def characterReferenceEnd? (m : Mark) : Option Mark :=
  if !m.sees '&' then none
  else
    let (start, digits, most) : Mark × (CodePoint → Bool) × Nat :=
      if m.next.sees '#' then
        if (m.skip 2).sees 'x' || (m.skip 2).sees 'X' then (m.skip 3, CodePoint.isHexDigit, 6)
        else (m.skip 2, CodePoint.isDigit, 5)
      else (m.next, CodePoint.isEnglishLetter, 30)
    let stop := start.skipWhile digits
    let count := stop.offset - start.offset
    if 1 ≤ count && count ≤ most && stop.sees ';' then some stop.next else none

/-- The place behind a fragment of a quoted value: an ampersand belongs to it unless a letter or a
number sign follows. -/
def markupFragmentEnd (quote : CodePoint) : Nat → Mark → Mark
  | 0, m => m
  | fuel + 1, m =>
    let stop := m.skipGlyphs fun g => !(g.is quote || g.is '&')
    if stop.sees '&' && !stop.next.atEnd &&
        !stop.next.seesAny (fun c => c = ('#' : CodePoint) || c.isEnglishLetter) then
      markupFragmentEnd quote fuel stop.next.next
    else stop

/-- The fragments and character references of a quoted value up to its closing quote, and the place
behind that quote. -/
def markupStringParts? (quote : CodePoint) : Nat → Mark → Option (List Node × Mark)
  | 0, _ => none
  | fuel + 1, m =>
    if m.sees quote then some ([], m.next)
    else
      let (kind, stop?) : Kind × Option Mark :=
        let stop := markupFragmentEnd quote fuel m
        if stop.offset = m.offset then (.characterReference, characterReferenceEnd? m)
        else (.stringFragment, some stop)
      match stop? with
      | none => none
      | some stop =>
        (markupStringParts? quote fuel stop).map fun (parts, close) =>
          (nodeBetween kind m stop [] :: parts, close)

/-- The quoted value of an attribute. -/
def markupString? (fuel : Nat) (m : Mark) : Option (Node × Mark) :=
  match m.point? with
  | none => none
  | some quote =>
    if quote = ('"' : CodePoint) || quote = ('\'' : CodePoint) then
      (markupStringParts? quote fuel m.next).map fun (parts, stop) =>
        (nodeBetween .string m stop parts, stop)
    else none

/-! ### Elements -/

/-- The place behind white space and comments. -/
def behindGap (fuel : Nat) (m : Mark) : Mark := (readGap true fuel m).stop

/-- An expression in braces, which open at the given place. It may be a spread, or missing. Ends
behind the closing brace. -/
def bracedExpression (g : Grammar) (m : Mark) : Rule Node := do
  resume true m.next
  let content ← do
    if ← seesMark "\x7d" then comments
    else if ← seesMark "..." then
      child (span .spreadElement (mark "..." ++ child (g.goal (.operand true))))
    else child (g.goal (.expression true))
  let trailing ← comments
  let close ← ahead
  if close.isMark "\x7d" then
    resume false close.stop
    return nodeBetween .markupExpression m close.stop
      ([nodeBetween (.token "\x7b") m m.next []] ++ content ++ trailing ++
        [nodeBetween (.token "\x7d") close.start close.stop []])
  else failure

/-- The attributes of an element from the given place on, and the place where its tag ends. -/
def attributes (g : Grammar) : Nat → Mark → Rule (List Node × Mark)
  | 0, _ => failure
  | fuel + 1, from' => do
    let m := behindGap fuel from'
    if m.sees '/' || m.sees '>' then return ([], m)
    else if m.sees '\x7b' then
      let n ← bracedExpression g m
      let (rest, stop) ← attributes g fuel (← behind)
      return (n :: rest, stop)
    else
      let some (name, nameStop) := attributeName? m | failure
      let sign := behindGap fuel nameStop
      if sign.sees '=' then
        let opening := behindGap fuel sign.next
        let (value, stop) ← do
          match markupString? fuel opening with
          | some found => pure found
          | none =>
            if opening.sees '\x7b' then
              let n ← bracedExpression g opening
              pure (n, ← behind)
            else
              resume true opening
              let n ← g.goal .markup
              pure (n, ← behind)
        let n := nodeBetween .markupAttribute m stop
          [name, nodeBetween (.token "=") sign sign.next [], value]
        let (rest, close) ← attributes g fuel stop
        return (n :: rest, close)
      else
        let n := nodeBetween .markupAttribute m nameStop [name]
        let (rest, close) ← attributes g fuel nameStop
        return (n :: rest, close)

/-- The content of an element from the given place on, and the place of its closing tag. -/
def content (g : Grammar) : Nat → Mark → Rule (List Node × Mark)
  | 0, _ => failure
  | fuel + 1, from' => do
    let m := from'.skipGlyphs fun c => !(c.is '<' || c.is '\x7b')
    if m.sees '\x7b' then
      let n ← bracedExpression g m
      let (rest, stop) ← content g fuel (← behind)
      return (n :: rest, stop)
    else if m.sees '<' then
      if (behindGap fuel m.next).sees '/' then return ([], m)
      else
        resume true m
        let n ← g.goal .markup
        let (rest, stop) ← content g fuel (← behind)
        return (n :: rest, stop)
    else failure

/-- The name in the tag of an element, and the place behind it; a fragment has none. -/
def tagName? (fuel : Nat) (m : Mark) : Option (List Node × Mark) :=
  if m.sees '>' then some ([], m)
  else (markupName? fuel m).map fun (n, stop) => ([n], stop)

/-- A markup element. -/
def markupElement (g : Grammar) : Rule Node := do
  let m ← here
  if !m.sees '<' then failure
  let fuel := (← get).fuel
  let some (name, nameStop) := tagName? fuel (behindGap fuel m.next) | failure
  let (attrs, stop) ← attributes g g.fuel nameStop
  let opening := nodeBetween (.token "<") m m.next []
  if stop.sees '/' then
    let close := behindGap fuel stop.next
    if name.isEmpty || !close.sees '>' then failure
    resume false close.next
    return nodeBetween .markupSelfClosingElement m close.next (opening :: (name ++ attrs))
  else
    let openingTag := nodeBetween .markupOpeningElement m stop.next (opening :: (name ++ attrs))
    let (inner, closing) ← content g g.fuel stop.next
    let slash := behindGap fuel closing.next
    let some (closeName, closeStop) := tagName? fuel (behindGap fuel slash.next) | failure
    let close := behindGap fuel closeStop
    if !close.sees '>' then failure
    let closingTag := nodeBetween .markupClosingElement closing close.next
      (nodeBetween (.token "</") closing slash.next [] :: closeName)
    resume false close.next
    return nodeBetween .markupElement m close.next (openingTag :: (inner ++ [closingTag]))

end ComponentIndex.Script.Grammar
