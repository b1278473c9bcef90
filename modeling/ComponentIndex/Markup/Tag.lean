/-
**Element names and what they may contain.**

The names of markup elements are compared in upper case.  Some elements are void and have no end
tag; some end where an element begins that they cannot contain.

Main definitions:

* `ComponentIndex.Markup.Tag`, `ComponentIndex.Markup.Tag.ofName` — the name of an element;
* `ComponentIndex.Markup.Tag.isVoid`, `ComponentIndex.Markup.Tag.canContain` — the two rules;
* `ComponentIndex.Markup.Tag.isAlike` — the looser comparison by which an end tag is sought.
-/

import ComponentIndex.Text.Quoted

set_option relaxedAutoImplicit false
set_option autoImplicit false

namespace ComponentIndex.Markup

/-- The name of an element, in upper case. -/
structure Tag where
  /-- The name. -/
  name : Text
deriving DecidableEq

namespace Tag

/-- The upper-case form of an English letter; any other code point is left alone. -/
def upperPoint (c : CodePoint) : CodePoint :=
  if c.isBetween 'a' 'z' then (CodePoint.ofNat? (c.val - 0x20)).getD c else c

/-- The tag of a name as it is spelled. -/
def ofName (name : Text) : Tag := ⟨name.map upperPoint⟩

/-- The void elements. -/
def voidNames : List Text :=
  ["AREA", "BASE", "BASEFONT", "BGSOUND", "BR", "COL", "COMMAND", "EMBED", "FRAME", "HR", "IMAGE",
    "IMG", "INPUT", "ISINDEX", "KEYGEN", "LINK", "MENUITEM", "META", "NEXTID", "PARAM", "SOURCE",
    "TRACK", "WBR"].map Text.ofString

/-- The other elements of the standard vocabulary. -/
def standardNames : List Text :=
  ["A", "ABBR", "ADDRESS", "ARTICLE", "ASIDE", "AUDIO", "B", "BDI", "BDO", "BLOCKQUOTE", "BODY",
    "BUTTON", "CANVAS", "CAPTION", "CITE", "CODE", "COLGROUP", "DATA", "DATALIST", "DD", "DEL",
    "DETAILS", "DFN", "DIALOG", "DIV", "DL", "DT", "EM", "FIELDSET", "FIGCAPTION", "FIGURE",
    "FOOTER", "FORM", "H1", "H2", "H3", "H4", "H5", "H6", "HEAD", "HEADER", "HGROUP", "HTML", "I",
    "IFRAME", "INS", "KBD", "LABEL", "LEGEND", "LI", "MAIN", "MAP", "MARK", "MATH", "MENU",
    "METER", "NAV", "NOSCRIPT", "OBJECT", "OL", "OPTGROUP", "OPTION", "OUTPUT", "P", "PICTURE",
    "PRE", "PROGRESS", "Q", "RB", "RP", "RT", "RTC", "RUBY", "S", "SAMP", "SCRIPT", "SECTION",
    "SELECT", "SLOT", "SMALL", "SPAN", "STRONG", "STYLE", "SUB", "SUMMARY", "SUP", "SVG", "TABLE",
    "TBODY", "TD", "TEMPLATE", "TEXTAREA", "TFOOT", "TH", "THEAD", "TIME", "TITLE", "TR", "U",
    "UL", "VAR", "VIDEO"].map Text.ofString

/-- The elements that end a paragraph. -/
def paragraphEnders : List Text :=
  ["ADDRESS", "ARTICLE", "ASIDE", "BLOCKQUOTE", "DETAILS", "DIV", "DL", "FIELDSET", "FIGCAPTION",
    "FIGURE", "FOOTER", "FORM", "H1", "H2", "H3", "H4", "H5", "H6", "HEADER", "HR", "MAIN", "NAV",
    "OL", "P", "PRE", "SECTION"].map Text.ofString

/-- The name is one of a few. -/
def isOneOf (names : List Text) (t : Tag) : Bool := names.contains t.name

/-- The tag has a given name. -/
def is (name : Text) (t : Tag) : Bool := t.name == name

/-- The element has no end tag. -/
def isVoid (t : Tag) : Bool := t.isOneOf voidNames

/-- The element is not of the standard vocabulary. -/
def isCustom (t : Tag) : Bool := !t.isOneOf standardNames && !t.isVoid

/-- An element can contain another one; otherwise it ends where the other begins. -/
def canContain (parent child : Tag) : Bool :=
  if parent.is "LI" then !child.is "LI"
  else if parent.is "DT" || parent.is "DD" then !(child.is "DT" || child.is "DD")
  else if parent.is "P" then !child.isOneOf paragraphEnders
  else if parent.is "COLGROUP" then child.is "COL"
  else if parent.is "RB" || parent.is "RT" || parent.is "RP" then
    !(child.is "RB" || child.is "RT" || child.is "RP")
  else if parent.is "OPTGROUP" then !child.is "OPTGROUP"
  else if parent.is "TR" then !child.is "TR"
  else if parent.is "TD" || parent.is "TH" then
    !(child.is "TD" || child.is "TH" || child.is "TR")
  else true

/-- Two tags are alike when they are equal or both custom. -/
def isAlike (a b : Tag) : Bool := a = b || (a.isCustom && b.isCustom)

/-- The element may be left open at the end of the source. -/
def endsWithSource (t : Tag) : Bool :=
  t.isVoid || !t.canContain ⟨[]⟩ || t.is "HTML" || t.is "HEAD" || t.is "BODY"

end Tag

/-- A code point that can stand in the name of an element. -/
def isTagNamePart (c : CodePoint) : Bool :=
  c.isEnglishLetter || c.isDigit || c = ('-' : CodePoint) || c = (':' : CodePoint) ||
    (0x80 ≤ c.val && c.isPrintable)

end ComponentIndex.Markup
