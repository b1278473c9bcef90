/-
**Failures.**

Main definitions:

* `ComponentIndex.Failure`, `ComponentIndex.Failure.message` — why a run ends without an answer.
-/

import ComponentIndex.Text.Utf8

set_option relaxedAutoImplicit false
set_option autoImplicit false

namespace ComponentIndex

/-- Why a run ends without an answer. -/
inductive Failure where
  /-- A file that has to be a text is not UTF-8. -/
  | undecodable
  /-- Nothing is left of the pattern of an ignore rule. -/
  | emptyPattern
  /-- An ignore rule has a set that cannot be read. -/
  | malformedPattern
  /-- A record holds a surrogate that stands alone. -/
  | unwritable
deriving DecidableEq

/-- What is said about a failure. -/
def Failure.message : Failure → Text
  | undecodable => "a file is not UTF-8"
  | emptyPattern => "an ignore rule has an empty pattern"
  | malformedPattern => "an ignore rule has a malformed set of characters"
  | unwritable => "a name holds a surrogate that stands alone"

end ComponentIndex
