/-
**What parsers are asked for.**

Little is asked of a parser: that the nodes of its trees are placed in the source, and that no surrogate
occurs in their texts, which are read from bytes.  Nothing is asked about which tree a source has, whether
it is well-formed or not.

Main definitions:

* `ComponentIndex.Parsers.StayWithin` — what is asked.

Main results:

* `ComponentIndex.Parsers.ofGrammars_stayWithin` — **the parsers of the two grammars** comply.
-/

import ComponentIndex.Proofs.Markup.Reader
import ComponentIndex.Proofs.Script.Program

set_option relaxedAutoImplicit false
set_option autoImplicit false

namespace ComponentIndex.Parsers

/-- The trees of parsers stay within the sources they are read from: nodes start in the source or at its
end, and no surrogate occurs in their texts. -/
structure StayWithin (p : Parsers) : Prop where
  /-- The trees of scripts. -/
  script : ∀ source, (p.script source).StartsWithin source.length
  /-- The trees of markup, the nodes of which end in the source too. -/
  markup : ∀ source, (p.markup source).IsWithin source.length

/-- **The parsers of the two grammars** comply. -/
theorem ofGrammars_stayWithin : ofGrammars.StayWithin where
  script := Script.startsWithin_parse
  markup := Markup.isWithin_parse

end ComponentIndex.Parsers
