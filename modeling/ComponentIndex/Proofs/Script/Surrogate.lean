/-
**Surrogate pairs in string literals.**

The value of a string literal has the UTF-16 code units that its pieces stand for.  Two escapes that spell
the halves of a character are joined to it, but only in a literal in which no surrogate stands alone: beside
a lone surrogate the halves stay two, and the value differs from that of a literal that spells the
character itself.

Main definitions:

* `ComponentIndex.Script.stringLiteralsOf` — the string literals of a script.

Main results:

* `ComponentIndex.Script.Node.stringValue?_joins` — **which pairs are joined**, and which literals with the
  same units have the same value;
* `ComponentIndex.Script.hasPair_besideLoneSurrogate` — a pair that is not joined.
-/

import ComponentIndex.Proofs.Script.Spelling
import ComponentIndex.Proofs.Text.Surrogate
import ComponentIndex.Script.Program
import ComponentIndex.Script.Traversal

set_option relaxedAutoImplicit false
set_option autoImplicit false

namespace ComponentIndex.Script

open Utf16 (HasPair HasLoneSurrogate units)

namespace Node

theorem stringValue?_of_kind {n : Node} (h : n.kind = .string) :
    n.stringValue? = some (Utf16.joinPairs n.spelledValue) :=
  if_pos h

/-- **The value of a string literal** has the units of its pieces.  A pair is left in it exactly if there
is one in the pieces and a surrogate stands alone beside it; and another literal with these units has the
same value, unless a surrogate stands alone and the pieces spell the units in another way. -/
theorem stringValue?_joins {n : Node} (hn : n.kind = .string) :
    ∃ v, n.stringValue? = some v ∧ units v = units n.spelledValue ∧
      (HasPair v ↔ HasPair n.spelledValue ∧ HasLoneSurrogate n.spelledValue) ∧
      ∀ m : Node, m.kind = .string → units m.spelledValue = units n.spelledValue →
        (m.stringValue? = some v ↔
          (HasLoneSurrogate n.spelledValue → m.spelledValue = n.spelledValue)) := by
  refine ⟨_, stringValue?_of_kind hn, Utf16.units_joinPairs _, Utf16.hasPair_joinPairs_iff, ?_⟩
  intro m hm hunits
  rw [stringValue?_of_kind hm, Option.some.injEq, Utf16.joinPairs_eq_iff hunits]

/-- A literal of two pieces, the escapes of the two halves of a character. -/
def spelledByHalves : Node :=
  ⟨.string, none, 0, "'\\uD83D\\uDE00'", [piece .escapeSequence "\\uD83D",
    piece .escapeSequence "\\uDE00"]⟩

/-- A literal of the same character as it is. -/
def spelledByItself : Node := ⟨.string, none, 0, "'😀'", [piece .stringFragment "😀"]⟩

theorem stringValue?_joins_halves :
    spelledByHalves.kind = .string ∧ HasPair spelledByHalves.spelledValue ∧
      ∃ v, spelledByHalves.stringValue? = some v ∧ ¬HasPair v ∧
        spelledByItself.stringValue? = some v := by
  have hpair : HasPair spelledByHalves.spelledValue :=
    ⟨⟨0xD83D, by decide⟩, ⟨0xDE00, by decide⟩, by decide, by decide, by decide⟩
  have hlone : ¬HasLoneSurrogate spelledByHalves.spelledValue := by decide
  obtain ⟨v, hv, -, hleft, hsame⟩ := stringValue?_joins (show spelledByHalves.kind = .string from rfl)
  refine ⟨rfl, hpair, v, hv, fun h => hlone (hleft.1 h).2, ?_⟩
  exact (hsame spelledByItself rfl (by decide)).2 fun h => absurd h hlone

end Node

/-- The string literals of a script. -/
def stringLiteralsOf (source : String) : List Node :=
  ((Cursor.root (parse (Utf8.encode source))).nodesOfKind .string).map Cursor.node

/-- Beside a lone surrogate a pair is not joined, so that a character spelled by its two halves differs
from the character itself. -/
theorem hasPair_besideLoneSurrogate :
    ∃ n m v, stringLiteralsOf "'\\uD83D\\uDE00\\uD800'" = [n] ∧
      stringLiteralsOf "'😀\\uD800'" = [m] ∧ n.kind = .string ∧ m.kind = .string ∧
      units n.spelledValue = units m.spelledValue ∧ n.stringValue? = some v ∧ HasPair v ∧
      m.stringValue? ≠ some v := by
  obtain ⟨n, hn⟩ : ∃ n, stringLiteralsOf "'\\uD83D\\uDE00\\uD800'" = [n] :=
    List.length_eq_one_iff.1 (by decide +kernel)
  obtain ⟨m, hm⟩ : ∃ m, stringLiteralsOf "'😀\\uD800'" = [m] :=
    List.length_eq_one_iff.1 (by decide +kernel)
  have hkindn : (stringLiteralsOf "'\\uD83D\\uDE00\\uD800'").map Node.kind = [.string] := by
    decide +kernel
  have hkindm : (stringLiteralsOf "'😀\\uD800'").map Node.kind = [.string] := by
    decide +kernel
  have hvaluen : (stringLiteralsOf "'\\uD83D\\uDE00\\uD800'").map Node.spelledValue =
      [[⟨0xD83D, by decide⟩, ⟨0xDE00, by decide⟩, ⟨0xD800, by decide⟩]] := by
    decide +kernel
  have hvaluem : (stringLiteralsOf "'😀\\uD800'").map Node.spelledValue =
      [[⟨0x1F600, by decide⟩, ⟨0xD800, by decide⟩]] := by
    decide +kernel
  rw [hn, List.map_singleton, List.singleton_inj] at hkindn hvaluen
  rw [hm, List.map_singleton, List.singleton_inj] at hkindm hvaluem
  refine ⟨n, m, _, hn, hm, hkindn, hkindm, ?_, Node.stringValue?_of_kind hkindn, ?_, ?_⟩
  · rw [hvaluen, hvaluem]
    decide
  · rw [hvaluen]
    exact ⟨⟨0xD83D, by decide⟩, ⟨0xDE00, by decide⟩, by decide, by decide, by decide⟩
  · rw [Node.stringValue?_of_kind hkindm, hvaluen, hvaluem]
    decide

end ComponentIndex.Script
