/-
**Tokens lie within their source.**

A token that is read from a place within a source lies within that source, and so do the comments
before it and the parts of a string literal.

Main definitions:

* `ComponentIndex.Script.Node.StartsWithin` — every node of a tree starts within a source and spans a
  text of it;
* `ComponentIndex.Script.Token.IsWithin` — a token lies within a source.

Main results:

* `ComponentIndex.Script.Token.isWithin_read` — **the next token lies within the source**.
-/

import ComponentIndex.Proofs.Text.Mark
import ComponentIndex.Script.Grammar.Token

set_option relaxedAutoImplicit false
set_option autoImplicit false

namespace ComponentIndex.Script

open Located

variable {size : Nat}

/-! ### Nodes within a source -/

/-- Every node of a tree starts within a source of the given size, or at its end, and no surrogate
occurs in the text it spans. -/
inductive Node.StartsWithin (size : Nat) : Node → Prop
  | mk {n : Node} (start_le : n.start ≤ size) (isScalar_text : n.text.isScalar = true)
      (children : ∀ c ∈ n.children, c.StartsWithin size) : n.StartsWithin size

namespace Node

instance : Located Node := ⟨StartsWithin⟩

namespace StartsWithin

variable {n : Node}

theorem start_le (h : n.StartsWithin size) : n.start ≤ size := by
  obtain ⟨h, -, -⟩ := h
  exact h

theorem isScalar_text (h : n.StartsWithin size) : n.text.isScalar = true := by
  obtain ⟨-, h, -⟩ := h
  exact h

theorem children (h : n.StartsWithin size) : LiesWithin size n.children := by
  obtain ⟨-, -, h⟩ := h
  exact h

theorem withRole (h : n.StartsWithin size) (role : Role) : (n.withRole role).StartsWithin size :=
  ⟨h.start_le, h.isScalar_text, h.children⟩

theorem withKind (h : n.StartsWithin size) (kind : Kind) :
    ({ n with kind := kind } : Node).StartsWithin size :=
  ⟨h.start_le, h.isScalar_text, h.children⟩

end StartsWithin

end Node

theorem liesWithin_nodeBetween {m stop : Mark} (hm : m.IsWithin size) {ns : List Node}
    (hns : LiesWithin size ns) (kind : Kind) : LiesWithin size (nodeBetween kind m stop ns) :=
  .mk hm.offset_le (hm.isScalar_textTo stop) hns

theorem liesWithin_childless {m stop : Mark} (hm : m.IsWithin size) (kind : Kind) :
    LiesWithin size (nodeBetween kind m stop []) :=
  liesWithin_nodeBetween hm liesWithin_nil kind

/-! ### White space and comments -/

theorem liesWithin_blockCommentEnd? {m : Mark} (h : m.IsWithin size) :
    LiesWithin size (blockCommentEnd? m) := by
  obtain ⟨rest, offset⟩ := m
  rw [blockCommentEnd?]
  induction rest generalizing offset with
  | nil => exact liesWithin_none
  | cons g rest ih =>
      rw [blockCommentEnd?.go]
      split
      next hclosed =>
        -- The slash that closes the comment takes at least the one byte that is counted for it.
        cases rest with
        | nil => simp at hclosed
        | cons slash rest =>
            obtain ⟨hsolid, hscalar, hfits⟩ := h
            have hslash : 0 < slash.width := hsolid slash (by simp)
            simp only [Utf8.totalWidth] at hfits
            refine liesWithin_some.2
              ⟨fun g hg => hsolid g (by simp_all), fun g hg => hscalar g (by simp_all), ?_⟩
            dsimp only [List.tail_cons]
            omega
      · exact ih _ h.tail

theorem liesWithin_comment? {m : Mark} (h : m.IsWithin size) (operand : Bool) :
    LiesWithin size (comment? operand m) := by
  rw [comment?]
  split
  · exact liesWithin_some.2 ⟨liesWithin_childless h _, h.skipGlyphs _⟩
  split
  · exact liesWithin_map (liesWithin_blockCommentEnd? (h.skip 2)) fun stop hstop =>
      ⟨liesWithin_childless h _, hstop⟩
  split
  · exact liesWithin_some.2 ⟨liesWithin_childless h _, h.skipGlyphs _⟩
  · exact liesWithin_none

/-- The comments of a gap and its end lie within the source. -/
theorem liesWithin_readGap (operand : Bool) (fuel : Nat) {m : Mark} (h : m.IsWithin size) :
    LiesWithin size (readGap operand fuel m).comments ∧
      (readGap operand fuel m).stop.IsWithin size := by
  induction fuel generalizing m with
  | zero => exact ⟨liesWithin_nil, h⟩
  | succ fuel ih =>
      have hbehind := h.skipWhile isSpace
      have hcomment := liesWithin_comment? hbehind operand
      rw [readGap]
      split
      · exact ⟨liesWithin_nil, hbehind⟩
      next node stop heq =>
        rw [heq, liesWithin_some] at hcomment
        obtain ⟨hnode, hstop⟩ := hcomment
        obtain ⟨hcomments, hrest⟩ := ih hstop
        exact ⟨liesWithin_cons.2 ⟨hnode, hcomments⟩, hrest⟩

/-! ### Names and numbers -/

theorem liesWithin_nameEscapeEnd? {m : Mark} (h : m.IsWithin size) :
    LiesWithin size (nameEscapeEnd? m) := by
  have hdigits := h.skipText? "\\u"
  rw [nameEscapeEnd?]
  split
  · exact liesWithin_none
  next digits heq =>
    rw [heq, liesWithin_some] at hdigits
    split
    · dsimp only
      split
      · exact liesWithin_some.2 (hdigits.next.skipWhile _).next
      · exact liesWithin_none
    · dsimp only
      split
      · exact liesWithin_some.2 (hdigits.skip 4)
      · exact liesWithin_none

theorem isWithin_nameEnd (fuel : Nat) {m : Mark} (h : m.IsWithin size) :
    (nameEnd fuel m).IsWithin size := by
  induction fuel generalizing m with
  | zero => exact h
  | succ fuel ih =>
      have hbehind := h.skipWhile isNamePart
      have hescape := liesWithin_nameEscapeEnd? hbehind
      rw [nameEnd]
      split
      next stop heq =>
        rw [heq, liesWithin_some] at hescape
        exact ih hescape
      · exact hbehind

theorem liesWithin_nameEnd? (fuel : Nat) {m : Mark} (h : m.IsWithin size) :
    LiesWithin size (nameEnd? fuel m) := by
  rw [nameEnd?]
  split
  · exact liesWithin_some.2 (isWithin_nameEnd fuel h.next)
  · exact liesWithin_map (liesWithin_nameEscapeEnd? h) fun _ => isWithin_nameEnd fuel

theorem isWithin_digitsEnd (p : CodePoint → Bool) {m : Mark} (h : m.IsWithin size) :
    (digitsEnd p m).IsWithin size := by
  obtain ⟨rest, offset⟩ := m
  rw [digitsEnd]
  induction rest generalizing offset with
  | nil => exact h
  | cons g rest ih =>
      rw [digitsEnd.go]
      split
      · exact ih _ h.tail
      split
      · exact ih _ h.tail
      · exact h

theorem isWithin_exponentEnd {m : Mark} (h : m.IsWithin size) :
    (exponentEnd m).IsWithin size :=
  have hsigned := h.next.next.ite h.next (m.next.sees '+' || m.next.sees '-')
  ((isWithin_digitsEnd _ hsigned).ite h _).ite h _

theorem liesWithin_basedNumberEnd? {m : Mark} (h : m.IsWithin size) :
    LiesWithin size (basedNumberEnd? m) := by
  rw [basedNumberEnd?]
  split
  · exact liesWithin_none
  dsimp only
  split
  · exact liesWithin_none
  split
  · exact liesWithin_some.2 (isWithin_digitsEnd _ h.next.next)
  · exact liesWithin_none

theorem isWithin_bigSuffixEnd {m : Mark} (h : m.IsWithin size) :
    (bigSuffixEnd m).IsWithin size :=
  h.next.ite h _

theorem liesWithin_numberEnd? {m : Mark} (h : m.IsWithin size) :
    LiesWithin size (numberEnd? m) := by
  have hbased := liesWithin_basedNumberEnd? h
  have hwhole := isWithin_digitsEnd CodePoint.isDigit h
  rw [numberEnd?]
  split
  next stop heq =>
    rw [heq, liesWithin_some] at hbased
    exact liesWithin_some.2 (isWithin_bigSuffixEnd hbased)
  split
  · dsimp only
    split
    · exact liesWithin_some.2 hwhole.next
    split
    · exact liesWithin_some.2
        (isWithin_exponentEnd ((isWithin_digitsEnd _ hwhole.next).ite hwhole.next _))
    · exact liesWithin_some.2 (isWithin_exponentEnd hwhole)
  split
  · exact liesWithin_some.2 (isWithin_exponentEnd (isWithin_digitsEnd _ h.next))
  · exact liesWithin_none

/-! ### String literals -/

theorem liesWithin_hexDigitsEnd? (count : Nat) {m : Mark} (h : m.IsWithin size) :
    LiesWithin size (hexDigitsEnd? count m) := by
  rw [hexDigitsEnd?]
  split
  · exact liesWithin_some.2 (h.skip count)
  · exact liesWithin_none

theorem liesWithin_escapeEnd? {m : Mark} (h : m.IsWithin size) :
    LiesWithin size (escapeEnd? m) := by
  rw [escapeEnd?.eq_def]
  split
  · exact liesWithin_none
  split
  · exact liesWithin_hexDigitsEnd? 2 h.next
  split
  · split
    · dsimp only
      split
      · exact liesWithin_some.2 (h.next.next.skipWhile _).next
      · exact liesWithin_none
    · exact liesWithin_hexDigitsEnd? 4 h.next
  split
  · dsimp only
    repeat' split
    · exact liesWithin_some.2 h.next.next.next
    · exact liesWithin_some.2 h.next.next
    · exact liesWithin_some.2 h.next
  split
  · exact liesWithin_some.2 h.next.next
  · exact liesWithin_some.2 h.next

theorem liesWithin_stringParts? (quote : CodePoint) (fuel : Nat) {m : Mark} (h : m.IsWithin size) :
    LiesWithin size (stringParts? quote fuel m) := by
  induction fuel generalizing m with
  | zero => exact liesWithin_none
  | succ fuel ih =>
      rw [stringParts?]
      split
      · exact liesWithin_some.2 ⟨liesWithin_nil, h.next⟩
      split
      · have hescape := liesWithin_escapeEnd? h.next
        split
        · exact liesWithin_none
        next stop heq =>
          rw [heq, liesWithin_some] at hescape
          exact liesWithin_map (ih hescape) fun _ hrest =>
            ⟨liesWithin_cons.2 ⟨liesWithin_childless h _, hrest.1⟩, hrest.2⟩
      · dsimp only
        split
        · exact liesWithin_none
        · exact liesWithin_map (ih (h.skipGlyphs _)) fun _ hrest =>
            ⟨liesWithin_cons.2 ⟨liesWithin_childless h _, hrest.1⟩, hrest.2⟩

theorem liesWithin_scanString? (fuel : Nat) {m : Mark} (h : m.IsWithin size) :
    LiesWithin size (scanString? fuel m) := by
  rw [scanString?]
  split
  · exact liesWithin_none
  · exact liesWithin_stringParts? _ fuel h.next

/-! ### The next token -/

theorem liesWithin_punctuationEnd? {m : Mark} (h : m.IsWithin size) :
    LiesWithin size (punctuationEnd? m) := by
  rw [punctuationEnd?]
  split
  · exact liesWithin_some.2 h.next
  · intro stop hstop
    obtain ⟨text, -, htext⟩ := List.exists_of_findSome?_eq_some hstop
    exact h.skipText? text stop htext

instance : Located TokenKind where
  LiesWithin size kind := ∀ parts, kind = .string parts → LiesWithin size parts

/-- The kind of the token at a place, with its parts, and its end lie within the source. -/
theorem liesWithin_tokenAt (fuel : Nat) {m : Mark} (h : m.IsWithin size) :
    LiesWithin size (tokenAt fuel m) := by
  have hname := liesWithin_nameEnd? fuel h
  have hnumber := liesWithin_numberEnd? h
  have hstring := liesWithin_scanString? fuel h
  have hprivate := liesWithin_nameEnd? fuel h.next
  have hmark := liesWithin_punctuationEnd? h
  rw [tokenAt]
  split
  · exact ⟨nofun, h⟩
  split
  next heq => exact ⟨nofun, hname _ heq⟩
  split
  next heq => exact ⟨nofun, hnumber _ heq⟩
  split
  · split
    next heq =>
      obtain ⟨hparts, hstop⟩ := hstring _ heq
      refine ⟨?_, hstop⟩
      rintro _ ⟨⟩
      exact hparts
    · exact ⟨nofun, h.next⟩
  split
  · split
    next heq => exact ⟨nofun, hprivate _ heq⟩
    · exact ⟨nofun, h.next⟩
  split
  next heq => exact ⟨nofun, hmark _ heq⟩
  · exact ⟨nofun, h.next⟩

/-- The token, the comments before it and its parts lie within a source of the given size. -/
structure Token.IsWithin (size : Nat) (t : Token) : Prop where
  /-- The parts of a string literal. -/
  kind : LiesWithin size t.kind
  /-- Its beginning. -/
  start : t.start.IsWithin size
  /-- Its end. -/
  stop : t.stop.IsWithin size
  /-- The comments before it. -/
  comments : LiesWithin size t.comments

instance : Located Token := ⟨Token.IsWithin⟩

theorem Token.isWithin_read (fuel : Nat) (operand : Bool) {m : Mark} (h : m.IsWithin size) :
    (Token.read fuel operand m).IsWithin size := by
  obtain ⟨hcomments, hstart⟩ := liesWithin_readGap operand fuel h
  obtain ⟨hkind, hstop⟩ := liesWithin_tokenAt fuel hstart
  exact ⟨hkind, hstart, hstop, hcomments⟩

end ComponentIndex.Script
