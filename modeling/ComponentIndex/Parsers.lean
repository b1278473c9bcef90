/-
**Parsers.**

A parser answers every source with a tree, one that is not well-formed included.  What is looked up in a
tree does not hang on how the tree was read, so whatever starts from the bytes of a file takes the parsers as
a parameter.  The parsers at hand are those of the two grammars.  They know well-formed sources only, and have
an empty tree for the others, where a parser that recovers keeps all that it can make out.

Main definitions:

* `ComponentIndex.Parsers` — a parser of scripts and one of markup;
* `ComponentIndex.Parsers.ofGrammars` — those of the two grammars.
-/

import ComponentIndex.Markup.Reader
import ComponentIndex.Script.Program

set_option relaxedAutoImplicit false
set_option autoImplicit false

namespace ComponentIndex

/-- The parsers in use. -/
class Parsers where
  /-- The tree of a script. -/
  script : List UInt8 → Script.Node
  /-- The tree of a markup source. -/
  markup : List UInt8 → Markup.Node

/-- The parsers of the two grammars, for sources that are well-formed. -/
instance Parsers.ofGrammars : Parsers where
  script := Script.parse
  markup := Markup.parse

end ComponentIndex
