/-
**Reading markup.**

The elements that are open form a stack.  A start tag pushes a frame, and an end tag closes the
innermost one; an element also ends where its end tag is implied, by the beginning of an element
that it cannot contain or by the end tag of an outer one.  Scripts and style sheets hold raw text,
which ends at the end tag of their own name.  The reader does not recover from a mistake: a source that is
not well-formed has the empty document as its tree, where a parser that recovers keeps the rest.

Main definitions:

* `ComponentIndex.Markup.Frame` — an element that is still open;
* `ComponentIndex.Markup.rawTextEnd` — where the raw text of a script ends;
* `ComponentIndex.Markup.parse?` — the tree of a well-formed source;
* `ComponentIndex.Markup.parse` — the same with the empty document for all other sources.
-/

import ComponentIndex.Markup.Node
import ComponentIndex.Markup.Tag
import ComponentIndex.Text.Mark

set_option relaxedAutoImplicit false
set_option autoImplicit false

namespace ComponentIndex.Markup

/-- White space of markup. -/
def isSpace (c : CodePoint) : Bool := (0x09 ≤ c.val && c.val ≤ 0x0D) || c.val = 0x20

/-- A node that spans the text between two places. -/
def nodeBetween (kind : Kind) (start stop : Mark) (children : List Node) : Node :=
  ⟨kind, start.offset, stop.offset, start.textTo stop, children⟩

/-! ### Pieces -/

/-- The place behind a comment whose opening has been passed: it closes with at least two hyphens
before an angle bracket. -/
def commentEnd? (m : Mark) : Option Mark := go 0 m.rest m.offset
where
  /-- The search, with the hyphens just seen and the bytes passed so far. -/
  go (hyphens : Nat) : List Glyph → Nat → Option Mark
    | [], _ => none
    | g :: rest, offset =>
      if g.is '-' then go (hyphens + 1) rest (offset + g.width)
      else if g.is '>' && 2 ≤ hyphens then some ⟨rest, offset + g.width⟩
      else go 0 rest (offset + g.width)

/-- The comment at a place. -/
def comment? (m : Mark) : Option (Node × Mark) :=
  match m.skipText? "<!--" with
  | none => none
  | some inner => (commentEnd? inner).map fun stop => (nodeBetween .comment m stop [], stop)

/-- The document type declaration at a place. -/
def doctype? (m : Mark) : Option (Node × Mark) :=
  match m.skipText? "<!" with
  | none => none
  | some inner =>
    let keyword := inner.skipWhile isSpace
    let body := keyword.skip 7
    let stop := body.skipGlyphs fun g => !g.is '>'
    if (keyword.textTo body).lower = Text.ofString "doctype" && stop.offset != body.offset &&
        stop.sees '>' then
      some (nodeBetween .doctype m stop.next [], stop.next)
    else none

/-- The name of a tag, behind white space. -/
def tagName? (m : Mark) : Option (Node × Mark) :=
  let start := m.skipWhile isSpace
  let stop := start.skipWhile isTagNamePart
  if stop.offset = start.offset then none else some (nodeBetween .tagName start stop [], stop)

/-- The place behind the raw text of an element, given its end tag without the last bracket. A
character that breaks off a partial match is not looked at again. -/
def rawTextEnd (close : List CodePoint) (m : Mark) : Mark := go close m m.rest m.offset
where
  /-- The search: what is still to match, and the last place outside of a match. -/
  go (left : List CodePoint) (outside : Mark) : List Glyph → Nat → Mark
    | [], offset => if left = close then ⟨[], offset⟩ else outside
    | g :: rest, offset =>
      match left with
      | [] => outside
      | c :: left' =>
        if (g.point?.map Tag.upperPoint) = some c then
          if left' = [] then outside else go left' outside rest (offset + g.width)
        else go close ⟨rest, offset + g.width⟩ rest (offset + g.width)

/-- The place behind the text at a place: it holds no angle bracket and no ampersand, and no white
space at its end. -/
def textEnd (m : Mark) : Mark := go m m.rest m.offset
where
  /-- The search, with the place behind the last character that is no white space. -/
  go (last : Mark) : List Glyph → Nat → Mark
    | [], _ => last
    | g :: rest, offset =>
      if g.is '<' || g.is '>' || g.is '&' then last
      else
        let behind : Mark := ⟨rest, offset + g.width⟩
        go (if g.satisfies isSpace then last else behind) rest (offset + g.width)

/-- The place behind a character reference. -/
def entityEnd? (m : Mark) : Option Mark :=
  if !m.sees '&' then none
  else
    let (start, digits, most) : Mark × (CodePoint → Bool) × Nat :=
      if m.next.sees '#' then
        if (m.skip 2).sees 'x' || (m.skip 2).sees 'X' then (m.skip 3, CodePoint.isHexDigit, 6)
        else (m.skip 2, CodePoint.isDigit, 5)
      else (m.next, CodePoint.isEnglishLetter, 30)
    let run := start.skipWhile digits
    let stop := start.skip (min most (run.offset - start.offset))
    if stop.offset = start.offset then none
    else some (if stop.sees ';' then stop.next else stop)

/-! ### Tags -/

/-- A code point of the name of an attribute. -/
def isAttributeNamePart (c : CodePoint) : Bool :=
  !isSpace c && !(Text.ofString "<>\"'/=").contains c

/-- A code point of an attribute value without quotes. -/
def isBareValuePart (c : CodePoint) : Bool :=
  !isSpace c && !(Text.ofString "<>\"'=").contains c

/-- A glyph of a run of text; stray bytes count as characters. -/
def isPart (p : CodePoint → Bool) (g : Glyph) : Bool :=
  match g.point? with
  | some c => p c
  | none => true

/-- The quoted value of an attribute. -/
def quotedValue? (m : Mark) : Option (Node × Mark) :=
  match m.point? with
  | none => none
  | some q =>
    if q = ('"' : CodePoint) || q = ('\'' : CodePoint) then
      let stop := m.next.skipGlyphs fun g => !g.is q
      if stop.sees q then
        let inner :=
          if stop.offset = m.next.offset then []
          else [nodeBetween .attributeValue m.next stop []]
        some (nodeBetween .quotedAttributeValue m stop.next inner, stop.next)
      else none
    else none

/-- The value of an attribute. -/
def attributeValue? (m : Mark) : Option (Node × Mark) :=
  match quotedValue? m with
  | some found => some found
  | none =>
    let stop := m.skipGlyphs (isPart isBareValuePart)
    if stop.offset = m.offset then none
    else some (nodeBetween .attributeValue m stop [], stop)

/-- The attribute at a place. -/
def attribute? (m : Mark) : Option (Node × Mark) :=
  let nameStop := m.skipGlyphs (isPart isAttributeNamePart)
  if nameStop.offset = m.offset then none
  else
    let name := nodeBetween .attributeName m nameStop []
    let sign := nameStop.skipWhile isSpace
    if sign.sees '=' then
      (attributeValue? (sign.next.skipWhile isSpace)).map fun (value, stop) =>
        (nodeBetween .attribute m stop [name, value], stop)
    else some (nodeBetween .attribute m nameStop [name], nameStop)

/-- The attributes from a place on, and the place where the tag ends; read in at most `fuel`
pieces. -/
def attributes? : Nat → Mark → Option (List Node × Mark)
  | 0, _ => none
  | fuel + 1, from' =>
    let m := from'.skipWhile isSpace
    if m.sees '>' || m.startsWith "/>" then some ([], m)
    else
      match (comment? m).or (attribute? m) with
      | none => none
      | some (n, stop) => (attributes? fuel stop).map fun (ns, close) => (n :: ns, close)

/-- The start tag at a place: its node, its tag, whether it closes itself, and the place behind
it. -/
def startTag? (fuel : Nat) (m : Mark) : Option (Node × Tag × Bool × Mark) :=
  match tagName? m.next with
  | none => none
  | some (name, nameStop) =>
    (attributes? fuel nameStop).map fun (attrs, close) =>
      if close.sees '>' then
        (nodeBetween .startTag m close.next (name :: attrs), Tag.ofName name.text, false,
          close.next)
      else
        (nodeBetween .selfClosingTag m (close.skip 2) (name :: attrs), Tag.ofName name.text, true,
          close.skip 2)

/-- The end tag at a place: the node of its name, its tag, and the place behind it. -/
def endTag? (m : Mark) : Option (Node × Tag × Mark) :=
  match tagName? (m.skip 2) with
  | none => none
  | some (name, nameStop) =>
    let close := nameStop.skipWhile isSpace
    if close.sees '>' then some (name, Tag.ofName name.text, close.next) else none

/-- The name of a script, and of a style sheet. -/
def isRawTag (t : Tag) : Bool := t.is "SCRIPT" || t.is "STYLE"

/-- The element with raw text whose start tag has been read, and the place behind its end tag. -/
def rawElement? (m : Mark) (tag : Tag) (opening : Node) (inner : Mark) : Option (Node × Mark) :=
  let stop := rawTextEnd (Text.ofString "</" ++ tag.name) inner
  match endTag? stop with
  | none => none
  | some (name, closing, close) =>
    if closing = tag then
      let kind : Kind := if tag.is "SCRIPT" then .scriptElement else .styleElement
      some (nodeBetween kind m close
        [opening, nodeBetween .rawText inner stop [], nodeBetween .endTag stop close [name]], close)
    else none

/-! ### Documents -/

/-- An element that is still open. -/
structure Frame where
  /-- Where it starts. -/
  start : Mark
  /-- Its name. -/
  tag : Tag
  /-- What it holds so far, its start tag included, the last child first. -/
  children : List Node

/-- The open elements, the innermost first, and what stands outside of them. -/
structure Context where
  /-- The open elements, the innermost first. -/
  frames : List Frame
  /-- The nodes of the document so far, the last one first. -/
  done : List Node

namespace Context

/-- Adds a node to the innermost open element. -/
def add (n : Node) (c : Context) : Context :=
  match c.frames with
  | [] => { c with done := n :: c.done }
  | f :: fs => { c with frames := { f with children := n :: f.children } :: fs }

/-- Opens an element. -/
def open' (f : Frame) (c : Context) : Context := { c with frames := f :: c.frames }

/-- Closes the innermost open element at a place, with the given nodes at its end. -/
def close (stop : Mark) (last : List Node) (c : Context) : Context :=
  match c.frames with
  | [] => c
  | f :: fs =>
    add (nodeBetween .element f.start stop (f.children.reverse ++ last)) { c with frames := fs }

/-- The name of the innermost open element. -/
def innermost? (c : Context) : Option Tag := c.frames.head?.map Frame.tag

/-- At an end tag with the given name the innermost open element ends without one of its own. -/
def endsBeforeClosing (t : Tag) (c : Context) : Bool :=
  match c.frames with
  | [] => false
  | f :: fs => f.tag != t && (f :: fs).any fun g => g.tag.isAlike t

/-- At a start tag with the given name the innermost open element ends. -/
def endsBeforeOpening (t : Tag) (c : Context) : Bool :=
  c.innermost?.any fun parent => parent.isVoid || !parent.canContain t

end Context

/-- One step through a document: the place behind the next piece, and what is open there. Nothing
is read where an element ends by implication. -/
def step? (fuel : Nat) (m : Mark) (c : Context) : Option (Mark × Context) :=
  if m.startsWith "<!" then
    ((comment? m).or (doctype? m)).map fun (n, stop) => (stop, c.add n)
  else if m.startsWith "</" then
    match endTag? m with
    | none => none
    | some (name, tag, stop) =>
      if c.endsBeforeClosing tag then some (m, c.close m [])
      else if c.innermost? = some tag then
        some (stop, c.close stop [nodeBetween .endTag m stop [name]])
      else some (stop, c.add (nodeBetween .strayEndTag m stop [name]))
  else if m.sees '<' then
    match startTag? fuel m with
    | none => none
    | some (opening, tag, closesItself, stop) =>
      if c.endsBeforeOpening tag then some (m, c.close m [])
      else if isRawTag tag then
        if closesItself then none
        else (rawElement? m tag opening stop).map fun (n, close) => (close, c.add n)
      else if closesItself then some (stop, c.add (nodeBetween .element m stop [opening]))
      else some (stop, c.open' ⟨m, tag, [opening]⟩)
  else if m.sees '&' then
    (entityEnd? m).map fun stop => (stop, c.add (nodeBetween .entity m stop []))
  else
    let stop := textEnd m
    if stop.offset = m.offset then none
    else some (stop, c.add (nodeBetween .text m stop []))

/-- Closes what may be left open at the end of the source. -/
def closeAll? (stop : Mark) : List Frame → List Node → Option (List Node)
  | [], done => some done.reverse
  | [f], done =>
    if f.tag.endsWithSource then
      some ((nodeBetween .element f.start stop f.children.reverse :: done).reverse)
    else none
  | f :: g :: fs, done =>
    if f.tag.endsWithSource then
      let n := nodeBetween .element f.start stop f.children.reverse
      closeAll? stop ({ g with children := n :: g.children } :: fs) done
    else none
termination_by frames => frames.length

/-- The nodes of a document from a place on, in at most `steps` steps. -/
def document? (fuel : Nat) : Nat → Mark → Context → Option (List Node)
  | 0, _, _ => none
  | steps + 1, from', c =>
    let m := from'.skipWhile isSpace
    if m.atEnd then closeAll? m c.frames c.done
    else
      match step? fuel m c with
      | none => none
      | some (stop, c') => document? fuel steps stop c'

/-- The syntax tree of a source, if it is well formed. Each step reads a piece or closes an element
that a step has opened, so twice the length of the source suffices. -/
def parse? (bytes : List UInt8) : Option Node :=
  let m := Mark.atStart bytes
  let size := m.rest.length
  (document? (size + 2) (2 * size + 2) m ⟨[], []⟩).map fun nodes =>
    ⟨.document, 0, bytes.length, Glyph.textOf m.rest, nodes⟩

/-- The tree of the empty document. -/
def emptyDocument : Node := ⟨.document, 0, 0, [], []⟩

/-- The syntax tree of a source; one that is not well formed counts as empty. -/
def parse (bytes : List UInt8) : Node := (parse? bytes).getD emptyDocument

end ComponentIndex.Markup
