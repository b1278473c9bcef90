/-
**What is passed between two places.**

A reader that moves from a place to a later one passes the glyphs between them, and the text between
the two places is the text of these glyphs.  In a source that is well-formed UTF-8 every glyph is a
code point, so that the text shows all that is passed.

Main definitions:

* `ComponentIndex.Mark.Passes` — from a place one gets to a later one past some glyphs;
* `ComponentIndex.Mark.IsWellFormed` — what follows a place is well-formed UTF-8.

Main results:

* `ComponentIndex.Mark.passes_next`, `ComponentIndex.Mark.passes_skipGlyphs` — moving forward;
* `ComponentIndex.Mark.Passes.textTo_eq` — **the text between two places** is that of the glyphs
  passed;
* `ComponentIndex.Mark.isWellFormed_atStart` — a source that can be decoded.
-/

import ComponentIndex.Proofs.Text.Mark

set_option relaxedAutoImplicit false
set_option autoImplicit false

namespace ComponentIndex

theorem Utf8.totalWidth_append (gs hs : List Glyph) :
    totalWidth (gs ++ hs) = totalWidth gs + totalWidth hs := by
  induction gs with
  | nil => rw [List.nil_append, totalWidth, Nat.zero_add]
  | cons g gs ih => rw [List.cons_append, totalWidth, totalWidth, ih, Nat.add_assoc]

theorem Glyph.textOf_append (gs hs : List Glyph) : textOf (gs ++ hs) = textOf gs ++ textOf hs :=
  List.filterMap_append

/-- If glyphs are read as a text, each of them is a code point. -/
theorem Glyph.exists_point_of_mapM {gs : List Glyph} {t : Text} (h : gs.mapM point? = some t) :
    ∀ g ∈ gs, ∃ c, g.point? = some c := by
  induction gs generalizing t with
  | nil => exact nofun
  | cons g gs ih =>
      rw [List.mapM_cons] at h
      obtain ⟨c, hc, h⟩ := Option.bind_eq_some_iff.1 h
      obtain ⟨t, ht, -⟩ := Option.bind_eq_some_iff.1 h
      exact List.forall_mem_cons.2 ⟨⟨c, hc⟩, ih ht⟩

theorem Glyph.textOf_cons {g : Glyph} {c : CodePoint} (h : g.point? = some c) (gs : List Glyph) :
    textOf (g :: gs) = c :: textOf gs :=
  List.filterMap_cons_some h

namespace Mark

/-- From one place one gets to another past the given glyphs. -/
structure Passes (m : Mark) (gs : List Glyph) (stop : Mark) : Prop where
  /-- The glyphs come first, then what follows the later place. -/
  rest_eq : m.rest = gs ++ stop.rest
  /-- The later place lies behind the bytes of the glyphs. -/
  offset_eq : stop.offset = m.offset + Utf8.totalWidth gs

/-- What follows the place is well-formed UTF-8. -/
structure IsWellFormed (m : Mark) : Prop where
  /-- Each glyph that follows takes some bytes. -/
  solid : ∀ g ∈ m.rest, 0 < g.width
  /-- Each glyph that follows is a code point. -/
  pointed : ∀ g ∈ m.rest, ∃ c, g.point? = some c

/-! ### Moving forward -/

theorem passes_nil (m : Mark) : m.Passes [] m := ⟨rfl, rfl⟩

theorem passes_next {m : Mark} {g : Glyph} {rest : List Glyph} (h : m.rest = g :: rest) :
    m.Passes [g] m.next := by
  rw [next.eq_def, h]
  exact ⟨h, rfl⟩

theorem passes_skipGlyphs (m : Mark) (p : Glyph → Bool) :
    m.Passes (m.rest.takeWhile p) (m.skipGlyphs p) := by
  obtain ⟨rest, offset⟩ := m
  rw [skipGlyphs]
  induction rest generalizing offset with
  | nil => exact passes_nil _
  | cons g rest ih =>
      rw [skipGlyphs.go, List.takeWhile_cons]
      split
      next hg =>
        obtain ⟨hrest, hoffset⟩ := ih (offset + g.width)
        refine ⟨by rw [List.cons_append, ← hrest], ?_⟩
        rw [hoffset, Utf8.totalWidth, Nat.add_assoc]
      · exact passes_nil _

namespace Passes

variable {m stop far : Mark} {gs hs : List Glyph}

/-- One passage after another. -/
theorem trans (h : m.Passes gs stop) (h' : stop.Passes hs far) : m.Passes (gs ++ hs) far where
  rest_eq := by rw [h.rest_eq, h'.rest_eq, List.append_assoc]
  offset_eq := by rw [h'.offset_eq, h.offset_eq, Utf8.totalWidth_append, Nat.add_assoc]

theorem mem_rest (h : m.Passes gs stop) {g : Glyph} (hg : g ∈ gs) : g ∈ m.rest :=
  h.rest_eq ▸ List.mem_append_left _ hg

theorem isWellFormed (h : m.Passes gs stop) (hm : m.IsWellFormed) : stop.IsWellFormed where
  solid _ hg := hm.solid _ (h.rest_eq ▸ List.mem_append_right _ hg)
  pointed _ hg := hm.pointed _ (h.rest_eq ▸ List.mem_append_right _ hg)

/-- The text between two places is the text of the glyphs that are passed. -/
theorem textTo_eq (h : m.Passes gs stop) (hm : m.IsWellFormed) : m.textTo stop = Glyph.textOf gs := by
  obtain ⟨rest, offset⟩ := m
  obtain ⟨hrest, hoffset⟩ := h
  dsimp only at hrest hoffset
  subst hrest
  rw [textTo, glyphsTo, hoffset]
  congr 1
  have hsolid : ∀ g ∈ gs, 0 < g.width := fun g hg => hm.solid g (List.mem_append_left _ hg)
  clear hm hoffset
  induction gs generalizing offset with
  | nil =>
      rw [List.nil_append, Utf8.totalWidth]
      cases stop.rest with
      | nil => rfl
      | cons g rest => exact if_neg (Nat.lt_irrefl _)
  | cons g gs ih =>
      obtain ⟨hg, hgs⟩ := List.forall_mem_cons.1 hsolid
      have hlt : offset < offset + (g.width + Utf8.totalWidth gs) := by omega
      rw [List.cons_append, glyphsTo.go, Utf8.totalWidth, if_pos hlt, ← Nat.add_assoc, ih _ hgs]

end Passes

/-! ### Well-formed sources -/

/-- What follows a place begins with the code point that is seen there. -/
theorem exists_rest_of_point? {m : Mark} {c : CodePoint} (h : m.point? = some c) :
    ∃ g rest, m.rest = g :: rest ∧ g.point? = some c := by
  obtain ⟨g, hg, hpoint⟩ := Option.bind_eq_some_iff.1 h
  obtain ⟨rest, hrest⟩ := List.head?_eq_some_iff.1 hg
  exact ⟨g, rest, hrest, hpoint⟩

/-- The beginning of a source that can be decoded. -/
theorem isWellFormed_atStart {bytes : List UInt8} {t : Text} (h : Utf8.decode? bytes = some t) :
    (atStart bytes).IsWellFormed where
  solid _ hg := Utf8.width_pos_of_mem_glyphsFrom hg
  pointed := Glyph.exists_point_of_mapM h

end Mark

end ComponentIndex
