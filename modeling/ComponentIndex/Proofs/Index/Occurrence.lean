/-
**The occurrences of a file.**

The payload of a file is in pre-order of its object literals, which is not the order of positions.
Its elements are declared by properties at different places, so that the occurrences of a file come
out strictly sorted once they are sorted.

Main definitions:

* `ComponentIndex.Occurrence.position` — where an occurrence is.

Main results:

* `ComponentIndex.FileIndex.pairwise_occurrences` — no two occurrences of a file share a position;
* `ComponentIndex.FileIndex.pairwise_sortedOccurrences` — **sorted occurrences ascend strictly**.
-/

import ComponentIndex.Proofs.Descriptor.Payload
import ComponentIndex.Proofs.SourceFile
import ComponentIndex.Proofs.Text.Order
import ComponentIndex.Index.File

set_option relaxedAutoImplicit false
set_option autoImplicit false

namespace ComponentIndex

open Script (Cursor)

namespace Occurrence

/-- The position of an occurrence. -/
def position (o : Occurrence) : Position := ⟨o.startLine, o.startCol⟩

theorem before_iff {a b : Occurrence} : a.before b = true ↔ a.position.Before b.position := by
  simp [before, Position.Before, position]

/-- The order of occurrences by position is strict. -/
theorem isStrict_before : IsStrict before where
  irrefl a := by
    rw [Bool.eq_false_iff, ne_eq, before_iff]
    exact Position.Before.irrefl _
  trans hab hbc := by
    rw [before_iff] at hab hbc ⊢
    exact hab.trans hbc

/-- An occurrence stands where its element is declared. -/
theorem eq_of_ofElement? {x : ExtensionPoint} {file : SourceFile} {e : Element} {o : Occurrence}
    (h : ofElement? x file e = some o) :
    o.path = file.path ∧ o.position = file.positionOf e.declaring.node := by
  obtain ⟨⟨index, name⟩, -, rfl⟩ := Option.map_eq_some_iff.1 h
  exact ⟨rfl, rfl⟩

end Occurrence

namespace FileIndex

/-- Two object literals of a file declare their elements at different positions. -/
theorem position_of_declares {file : SourceFile} (hlayout : file.IsLaidOut)
    {object object' : Cursor} (hobject : object.IsIn file.tree)
    (hobject' : object'.IsIn file.tree) (hne : object ≠ object')
    {e e' : Element} (he : Declares file object e) (he' : Declares file object' e') :
    (file.positionOf e.declaring.node).Before (file.positionOf e'.declaring.node) ∨
      (file.positionOf e'.declaring.node).Before (file.positionOf e.declaring.node) := by
  obtain ⟨hkind, hfirst, -⟩ := he
  obtain ⟨hkind', hfirst', -⟩ := he'
  have hmem := List.mem_of_mem_head? hfirst
  have hmem' := List.mem_of_mem_head? hfirst'
  have hparent := Cursor.parent?_of_mem_children (List.mem_of_mem_filter hmem)
  have hparent' := Cursor.parent?_of_mem_children (List.mem_of_mem_filter hmem')
  have hsize : ∀ {c d : Cursor}, c.IsIn file.tree → d ∈ c.children →
      d.node.start ≤ file.source.length := by
    intro c d hc hd
    obtain ⟨stop, hstop, hends⟩ := Cursor.endsAt_of_mem_children hlayout.nodes hc hd
    exact Nat.le_trans (Script.Node.endsAt_iff.1 hends).1 hstop
  have hdeclaring : e.declaring ≠ e'.declaring := by
    intro h
    rw [h, hparent'] at hparent
    exact hne (Option.some.inj hparent).symm
  have hstart := Cursor.property_start_ne hlayout.nodes hlayout.braces hobject hobject' hkind hkind'
    hmem hmem' hdeclaring
  rcases Nat.lt_or_gt_of_ne hstart with hlt | hgt
  · exact Or.inl (SourceFile.position_before hlt (hsize hobject' (List.mem_of_mem_filter hmem')))
  · exact Or.inr (SourceFile.position_before hgt (hsize hobject (List.mem_of_mem_filter hmem)))

/-- No two occurrences of a file share a position. -/
theorem pairwise_occurrences {file : SourceFile} (hlayout : file.IsLaidOut) :
    (ofFile .standard file).occurrences.Pairwise fun a b => a.before b ∨ b.before a := by
  have hobjects : file.root.preorder.Pairwise (· ≠ ·) := Cursor.nodup_preorder _
  rw [ofFile]
  dsimp only
  rw [ExtensionPoint.collect_eq_filterMap, List.pairwise_filterMap, List.pairwise_filterMap]
  refine hobjects.imp_of_mem ?_
  intro object object' hobject hobject' hne e he e' he' o ho o' ho'
  have hin := Cursor.mem_preorder_iff.1 hobject
  have hin' := Cursor.mem_preorder_iff.1 hobject'
  rw [Occurrence.before_iff, Occurrence.before_iff, (Occurrence.eq_of_ofElement? ho).2,
    (Occurrence.eq_of_ofElement? ho').2]
  exact position_of_declares hlayout hin hin' hne ((Element.ofObject?_eq_some_iff hin).1 he)
    ((Element.ofObject?_eq_some_iff hin').1 he')

/-- The occurrences of a file that is laid out are strictly ascending once they are sorted. -/
theorem pairwise_sortedOccurrences {file : SourceFile} (hlayout : file.IsLaidOut) :
    (ofFile .standard file).sortedOccurrences.Pairwise fun a b => a.position.Before b.position :=
  (pairwise_sortBy_of_comparable Occurrence.isStrict_before (pairwise_occurrences hlayout)).imp
    Occurrence.before_iff.1

theorem path_of_mem_sortedOccurrences {x : ExtensionPoint} {file : SourceFile} {o : Occurrence}
    (h : o ∈ (ofFile x file).sortedOccurrences) : o.path = file.path := by
  obtain ⟨e, -, he⟩ := List.mem_filterMap.1 ((sortBy_perm _).mem_iff.1 h)
  exact (Occurrence.eq_of_ofElement? he).1

end FileIndex

end ComponentIndex
