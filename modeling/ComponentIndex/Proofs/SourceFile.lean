/-
**Positions in a source file.**

Main definitions:

* `ComponentIndex.SourceFile.IsLaidOut` — the tree of a file is laid out in its source, and a brace
  opens each object literal.

Main results:

* `ComponentIndex.SourceFile.position_before` — positions of nodes follow their starts.
-/

import ComponentIndex.Proofs.Script.Property
import ComponentIndex.Proofs.Text.Position
import ComponentIndex.SourceFile

set_option relaxedAutoImplicit false
set_option autoImplicit false

namespace ComponentIndex.SourceFile

open Script (Kind Node)

/-- The tree of a file is laid out in its source, and a brace opens each object literal. -/
structure IsLaidOut (file : SourceFile) : Prop where
  /-- Nodes lie within their parents, one after the other. -/
  nodes : file.tree.IsLaidOut Kind.isMember file.source.length
  /-- A brace stands before the properties of each object literal. -/
  braces : ∀ object ∈ file.root.preorder, object.kind = .object → object.node.OpensWithBrace

instance (file : SourceFile) : Decidable file.IsLaidOut :=
  decidable_of_iff
    (file.tree.IsLaidOut Kind.isMember file.source.length ∧
      ∀ object ∈ file.root.preorder, object.kind = .object → object.node.OpensWithBrace)
    ⟨fun h => ⟨h.1, h.2⟩, fun h => ⟨h.nodes, h.braces⟩⟩

/-- The position of a node in its file. -/
def positionOf (file : SourceFile) (n : Node) : Position := ⟨file.lineOf n, file.colOf n⟩

/-- The position of a node in its file follows its start. -/
theorem position_before {file : SourceFile} {n m : Node} (h : n.start < m.start)
    (hm : m.start ≤ file.source.length) :
    (file.positionOf n).Before (file.positionOf m) := by
  have hbefore := Position.ofOffset_before h hm
  simp only [Position.Before, Position.ofOffset, positionOf, lineOf, colOf] at hbefore ⊢
  omega

/-- The path of a file is the one it was read from. -/
theorem path_ofBytes [Parsers] (path : Text) (bytes : List UInt8) (type : FileType) :
    (ofBytes path bytes type).path = path := by
  cases type with
  | script => rfl
  | component =>
      rw [ofBytes]
      cases Markup.findScript? bytes with
      | none => rfl
      | some block => rfl

/-- A file is of the type it was read as. -/
theorem fileType_ofBytes [Parsers] (path : Text) (bytes : List UInt8) (type : FileType) :
    (ofBytes path bytes type).fileType = type := by
  cases type with
  | script => rfl
  | component =>
      rw [ofBytes]
      cases Markup.findScript? bytes with
      | none => rfl
      | some block => rfl

end ComponentIndex.SourceFile
