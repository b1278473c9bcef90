/-
**String literals as they are read.**

Between its quotes a string literal is a row of pieces: fragments, which hold neither the quote nor a
backslash, and escape sequences.  The text of the literal is made of the texts of its pieces, and an
octal escape takes as many digits as follow its backslash, up to three.  The reader of tokens makes
such literals.

Main definitions:

* `ComponentIndex.Script.Pieces` — what stands between two quotes;
* `ComponentIndex.Script.Node.IsQuoted` — a string literal with its pieces;
* `ComponentIndex.Script.literalAtStart` — the literal with which a source begins.

Main results:

* `ComponentIndex.Script.Node.IsQuoted.unquotedText_eq`,
  `ComponentIndex.Script.Node.spelledValue_eq` — what the pieces of a literal are read as;
* `ComponentIndex.Script.isQuoted_of_tokenAt`, `ComponentIndex.Script.isQuoted_of_stringLiteral` —
  **the literals that are read are such**.
-/

import ComponentIndex.Proofs.Script.Spelling
import ComponentIndex.Proofs.Text.Passage
import ComponentIndex.Script.Grammar.Pattern

set_option relaxedAutoImplicit false
set_option autoImplicit false

namespace ComponentIndex.Script

/-! ### Literals and their pieces -/

/-- The pieces between two quotes. -/
inductive Pieces (quote : CodePoint) : List Node → Prop
  | nil : Pieces quote []
  /-- A fragment stands for itself. -/
  | fragment {n : Node} {ns : List Node} (kind : n.kind = .stringFragment)
      (plain : ∀ c ∈ n.text, c ≠ quote ∧ c ≠ ('\\' : CodePoint)) (rest : Pieces quote ns) :
      Pieces quote (n :: ns)
  /-- An escape sequence; behind less than three octal digits there is no further one. -/
  | escape {n : Node} {ns : List Node} {body : Text} (escape : n.IsEscape body)
      (greedy : isOctalEscape body = true → body.length < 3 →
        ∀ c ∈ (ns.flatMap Node.text).head?, c.isOctalDigit = false) (rest : Pieces quote ns) :
      Pieces quote (n :: ns)

/-- The node is a string literal: a row of pieces between two quotes. -/
structure Node.IsQuoted (n : Node) : Prop where
  /-- It is a string literal. -/
  kind : n.kind = .string
  /-- Its text is that of its pieces between two quotes. -/
  text : ∃ quote : CodePoint, (quote = '"' ∨ quote = '\'') ∧ Pieces quote n.namedChildren ∧
    n.text = quote :: (n.namedChildren.flatMap Node.text ++ [quote])

theorem Pieces.filter_isNamed {quote : CodePoint} {ns : List Node} (h : Pieces quote ns) :
    ns.filter (fun n => n.kind.isNamed) = ns := by
  rw [List.filter_eq_self]
  induction h with
  | nil => exact nofun
  | fragment kind _ _ ih => exact List.forall_mem_cons.2 ⟨by rw [kind]; rfl, ih⟩
  | escape escape _ _ ih => exact List.forall_mem_cons.2 ⟨by rw [escape.kind]; rfl, ih⟩

namespace Node

/-- Punctuation adds nothing to the value of a literal. -/
theorem fragmentValue_of_not_isNamed {n : Node} (h : n.kind.isNamed = false) :
    n.fragmentValue = [] := by
  rw [fragmentValue]
  split
  next hkind => rw [hkind] at h; cases h
  next hkind => rw [hkind] at h; cases h
  · rfl

/-- The value of a literal is spelled by its pieces. -/
theorem spelledValue_eq (n : Node) : n.spelledValue = n.namedChildren.flatMap fragmentValue := by
  rw [spelledValue, namedChildren]
  induction n.children with
  | nil => rfl
  | cons c cs ih =>
      rw [List.flatMap_cons, List.filter_cons, ih]
      cases hnamed : c.kind.isNamed with
      | true => rw [if_pos rfl, List.flatMap_cons]
      | false =>
          rw [if_neg Bool.false_ne_true, fragmentValue_of_not_isNamed hnamed, List.nil_append]

/-- Without its quotes a literal is the text of its pieces. -/
theorem IsQuoted.unquotedText_eq {n : Node} (h : n.IsQuoted) :
    n.unquotedText = n.namedChildren.flatMap Node.text := by
  obtain ⟨-, quote, hquote, -, htext⟩ := h
  have hisQuote : Text.isQuote quote = true := by
    rcases hquote with rfl | rfl <;> decide
  rw [unquotedText, htext, Text.unquoted, if_pos hisQuote, List.getLast?_concat]
  dsimp only
  rw [if_pos rfl, List.dropLast_concat]

end Node

/-! ### Reading an escape sequence -/

theorem exists_passes_skip (n : Nat) (m : Mark) : ∃ gs, m.Passes gs (m.skip n) := by
  induction n generalizing m with
  | zero => exact ⟨[], m.passes_nil⟩
  | succ n ih =>
      obtain ⟨gs, hgs⟩ := ih m.next
      cases hrest : m.rest with
      | nil =>
          have hnext : m.next = m := by rw [Mark.next, hrest]
          rw [hnext] at hgs
          exact ⟨gs, by rwa [Mark.skip, hnext]⟩
      | cons g rest => exact ⟨_, (Mark.passes_next hrest).trans hgs⟩

theorem exists_passes_of_hexDigitsEnd? {count : Nat} {m stop : Mark}
    (h : hexDigitsEnd? count m = some stop) : ∃ gs, m.Passes gs stop := by
  rw [hexDigitsEnd?] at h
  split at h
  · obtain rfl := Option.some.inj h
    exact exists_passes_skip count m
  · cases h

/-- What is seen at a place is passed by moving on. -/
theorem exists_passes_of_seesAny {p : CodePoint → Bool} {m : Mark} (h : m.seesAny p = true) :
    ∃ g, m.Passes [g] m.next := by
  obtain ⟨c, hc, -⟩ := (Option.any_eq_true _ _).1 h
  obtain ⟨g, rest, hrest, -⟩ := Mark.exists_rest_of_point? hc
  exact ⟨g, Mark.passes_next hrest⟩

theorem exists_passes_of_sees {c : CodePoint} {m : Mark} (h : m.sees c = true) :
    ∃ g, g.point? = some c ∧ m.Passes [g] m.next := by
  obtain ⟨g, rest, hrest, hg⟩ := Mark.exists_rest_of_point? (beq_iff_eq.1 h)
  exact ⟨g, hg, Mark.passes_next hrest⟩

theorem satisfies_of_is {c : CodePoint} {g : Glyph} (h : g.is c = true) (p : CodePoint → Bool) :
    g.satisfies p = p c := by
  rw [Glyph.satisfies, beq_iff_eq.1 h, Option.any_some]

/-- An escape sequence passes at least one glyph, and if this is an octal digit and less than three
glyphs are passed, it ends where no octal digit is seen. -/
theorem exists_glyphs_of_escapeEnd? {m stop : Mark} (h : escapeEnd? m = some stop) :
    ∃ g gs, m.Passes (g :: gs) stop ∧
      (g.satisfies CodePoint.isOctalDigit = true → gs.length < 2 →
        stop.seesAny CodePoint.isOctalDigit = false) := by
  rw [escapeEnd?.eq_def] at h
  split at h
  · cases h
  next g rest hrest =>
  have hfirst := Mark.passes_next hrest
  split at h
  next hx =>
    obtain ⟨gs, hgs⟩ := exists_passes_of_hexDigitsEnd? h
    refine ⟨g, gs, hfirst.trans hgs, fun hoctal => ?_⟩
    rw [satisfies_of_is hx] at hoctal
    exact absurd hoctal (by decide)
  split at h
  next hu =>
    have hnot : g.satisfies CodePoint.isOctalDigit ≠ true := by
      rw [satisfies_of_is hu]
      decide
    split at h
    next hopen =>
      dsimp only at h
      split at h
      next hclose =>
        obtain rfl := Option.some.inj h
        obtain ⟨opening, -, hopening⟩ := exists_passes_of_sees hopen
        obtain ⟨closing, -, hclosing⟩ := exists_passes_of_sees (Bool.and_eq_true_iff.1 hclose).1
        have hdigits := m.next.next.passes_skipGlyphs (·.satisfies CodePoint.isHexDigit)
        exact ⟨g, _, hfirst.trans (hopening.trans (hdigits.trans hclosing)),
          fun hoctal => absurd hoctal hnot⟩
      · cases h
    · obtain ⟨gs, hgs⟩ := exists_passes_of_hexDigitsEnd? h
      exact ⟨g, gs, hfirst.trans hgs, fun hoctal => absurd hoctal hnot⟩
  split at h
  · -- The digits are counted one by one.
    dsimp only at h
    split at h
    next hsecond =>
      obtain ⟨second, hpasses⟩ := exists_passes_of_seesAny hsecond
      split at h
      next hthird =>
        obtain rfl := Option.some.inj h
        obtain ⟨third, hpasses'⟩ := exists_passes_of_seesAny hthird
        exact ⟨g, _, hfirst.trans (hpasses.trans hpasses'), fun _ hlt => absurd hlt (by simp)⟩
      next hthird =>
        obtain rfl := Option.some.inj h
        exact ⟨g, _, hfirst.trans hpasses, fun _ _ => Bool.eq_false_iff.2 hthird⟩
    next hsecond =>
      obtain rfl := Option.some.inj h
      exact ⟨g, _, hfirst, fun _ _ => Bool.eq_false_iff.2 hsecond⟩
  next hnot =>
  split at h
  next hline =>
    obtain rfl := Option.some.inj h
    obtain ⟨second, hpasses⟩ := exists_passes_of_seesAny (Bool.and_eq_true_iff.1 hline).2
    exact ⟨g, _, hfirst.trans hpasses, fun hoctal => absurd hoctal hnot⟩
  · obtain rfl := Option.some.inj h
    exact ⟨g, _, hfirst, fun hoctal => absurd hoctal hnot⟩

/-! ### Reading a literal -/

theorem length_textOf {gs : List Glyph} (h : ∀ g ∈ gs, ∃ c, g.point? = some c) :
    (Glyph.textOf gs).length = gs.length := by
  induction gs with
  | nil => rfl
  | cons g gs ih =>
      obtain ⟨⟨c, hc⟩, hgs⟩ := List.forall_mem_cons.1 h
      rw [Glyph.textOf_cons hc, List.length_cons, List.length_cons, ih hgs]

/-- A text that is passed begins with what is seen. -/
theorem point?_of_head?_textOf {m stop : Mark} {gs : List Glyph} {c : CodePoint}
    (h : m.Passes gs stop) (hm : m.IsWellFormed) (hc : c ∈ (Glyph.textOf gs).head?) :
    m.point? = some c := by
  cases gs with
  | nil => cases hc
  | cons g gs =>
      obtain ⟨d, hd⟩ := hm.pointed g (h.mem_rest List.mem_cons_self)
      rw [Glyph.textOf_cons hd, List.head?_cons] at hc
      rw [Mark.point?, h.rest_eq, List.cons_append, List.head?_cons, Option.bind_some, hd, hc]

/-- An escape sequence passes some text, and an octal one of less than three digits ends where no
further digit is seen. -/
theorem exists_passes_of_escapeEnd? {m stop : Mark} (hm : m.IsWellFormed)
    (h : escapeEnd? m = some stop) :
    ∃ gs, m.Passes gs stop ∧ (isOctalEscape (Glyph.textOf gs) = true →
      (Glyph.textOf gs).length < 3 → stop.seesAny CodePoint.isOctalDigit = false) := by
  obtain ⟨g, gs, hpasses, hends⟩ := exists_glyphs_of_escapeEnd? h
  refine ⟨g :: gs, hpasses, fun hoctal hlength => ?_⟩
  have hpointed : ∀ g' ∈ g :: gs, ∃ c, g'.point? = some c := fun g' hg' =>
    hm.pointed g' (hpasses.mem_rest hg')
  obtain ⟨⟨c, hc⟩, -⟩ := List.forall_mem_cons.1 hpointed
  rw [length_textOf hpointed, List.length_cons] at hlength
  simp only [Glyph.textOf_cons hc, isOctalEscape, Bool.and_eq_true, List.all_cons] at hoctal
  refine hends ?_ (by omega)
  rw [Glyph.satisfies, hc, Option.any_some]
  exact hoctal.2.1

/-- What the reader of literals passes are the pieces of the literal and its quote. -/
theorem pieces_of_stringParts? {quote : CodePoint} {fuel : Nat} {m close : Mark}
    {parts : List Node} (hm : m.IsWellFormed) (h : stringParts? quote fuel m = some (parts, close)) :
    Pieces quote parts ∧ ∃ gs, m.Passes gs close ∧
      Glyph.textOf gs = parts.flatMap Node.text ++ [quote] := by
  induction fuel generalizing m parts with
  | zero => cases h
  | succ fuel ih =>
      rw [stringParts?] at h
      split at h
      next hquote =>
        obtain ⟨rfl, rfl⟩ := Prod.mk.inj (Option.some.inj h)
        obtain ⟨g, hg, hpasses⟩ := exists_passes_of_sees hquote
        exact ⟨.nil, [g], hpasses, Glyph.textOf_cons hg []⟩
      split at h
      next hbackslash =>
        split at h
        · cases h
        next stop hstop =>
        obtain ⟨⟨rest, close'⟩, hrest, heq⟩ := Option.map_eq_some_iff.1 h
        obtain ⟨rfl, rfl⟩ := Prod.mk.inj heq
        obtain ⟨b, hb, hfirst⟩ := exists_passes_of_sees hbackslash
        have hnext := hfirst.isWellFormed hm
        obtain ⟨gs, hbody, hends⟩ := exists_passes_of_escapeEnd? hnext hstop
        obtain ⟨hpieces, hs, hpasses, htext⟩ := ih (hbody.isWellFormed hnext) hrest
        have hall := (hfirst.trans hbody).textTo_eq hm
        have hescape : (nodeBetween .escapeSequence m stop []).IsEscape (Glyph.textOf gs) :=
          ⟨rfl, hall.trans (Glyph.textOf_cons hb _)⟩
        refine ⟨.escape hescape ?_ hpieces, _, (hfirst.trans hbody).trans hpasses, ?_⟩
        · intro hoctal hlength c hc
          have hhead : c ∈ (Glyph.textOf hs).head? := by
            rw [htext, List.head?_append, Option.mem_def.1 hc]
            rfl
          have hseen := hends hoctal hlength
          rwa [Mark.seesAny, point?_of_head?_textOf hpasses (hbody.isWellFormed hnext) hhead,
            Option.any_some] at hseen
        · rw [Glyph.textOf_append, ← hall, htext, List.flatMap_cons, List.append_assoc]
          rfl
      next hquote hbackslash =>
        dsimp only at h
        split at h
        · cases h
        obtain ⟨⟨rest, close'⟩, hrest, heq⟩ := Option.map_eq_some_iff.1 h
        obtain ⟨rfl, rfl⟩ := Prod.mk.inj heq
        have hfragment := m.passes_skipGlyphs fun g =>
          !(g.is quote || g.is '\\' || g.is '\n' || g.is '\r')
        obtain ⟨hpieces, hs, hpasses, htext⟩ := ih (hfragment.isWellFormed hm) hrest
        have hall := hfragment.textTo_eq hm
        refine ⟨.fragment rfl ?_ hpieces, _, hfragment.trans hpasses, ?_⟩
        · intro c hc
          change c ∈ m.textTo _ at hc
          rw [hall] at hc
          obtain ⟨g, hg, hpoint⟩ := List.mem_filterMap.1 hc
          have hplain := List.all_eq_true.1 List.all_takeWhile g hg
          simp only [Glyph.is, hpoint, Bool.not_eq_true', Bool.or_eq_false_iff] at hplain
          simpa using hplain.1.1
        · rw [Glyph.textOf_append, ← hall, htext, List.flatMap_cons, List.append_assoc]
          rfl

/-- **The literals that are read** are rows of pieces between two quotes. -/
theorem isQuoted_of_tokenAt {fuel : Nat} {m stop : Mark} {parts : List Node} (hm : m.IsWellFormed)
    (h : tokenAt fuel m = (.string parts, stop)) : (nodeBetween .string m stop parts).IsQuoted := by
  rw [tokenAt] at h
  split at h
  · cases h
  split at h
  · cases h
  split at h
  · cases h
  split at h
  next hquote =>
    split at h
    next parts' stop' hscan =>
      cases h
      rw [scanString?] at hscan
      split at hscan
      · cases hscan
      next quote hpoint =>
      obtain ⟨g, rest, hrest, hg⟩ := Mark.exists_rest_of_point? hpoint
      have hfirst := Mark.passes_next hrest
      obtain ⟨hpieces, gs, hpasses, htext⟩ := pieces_of_stringParts? (hfirst.isWellFormed hm) hscan
      have hnamed : (nodeBetween .string m stop parts).namedChildren = parts :=
        hpieces.filter_isNamed
      refine ⟨rfl, quote, ?_, by rwa [hnamed], ?_⟩
      · simpa [Mark.sees, hpoint] using hquote
      · rw [hnamed, ← htext, ← Glyph.textOf_cons hg]
        exact (hfirst.trans hpasses).textTo_eq hm
    · cases h
  split at h
  · split at h <;> cases h
  · split at h <;> cases h

/-- The rule of string literals yields such literals, if the token ahead is one that is read. -/
theorem isQuoted_of_stringLiteral {fuel : Nat} {p q : Place} {n : Node}
    (hp : p.ahead.start.IsWellFormed)
    (hread : tokenAt fuel p.ahead.start = (p.ahead.kind, p.ahead.stop))
    (h : Grammar.stringLiteral.run p = some (n, q)) : n.IsQuoted := by
  rw [Grammar.stringLiteral, StateT.run_bind] at h
  obtain ⟨⟨t, p'⟩, ht, h⟩ := Option.bind_eq_some_iff.1 h
  obtain ⟨rfl, rfl⟩ := Prod.mk.inj (Option.some.inj ht)
  dsimp only at h
  split at h
  next parts hkind =>
    rw [StateT.run_bind] at h
    obtain ⟨⟨t, p''⟩, -, h⟩ := Option.bind_eq_some_iff.1 h
    obtain ⟨rfl, rfl⟩ := Prod.mk.inj (Option.some.inj h)
    rw [hkind] at hread
    exact isQuoted_of_tokenAt hp hread
  · cases h

/-- The string literal with which a source begins. -/
def literalAtStart (source : Text) : Node :=
  let m := Mark.atStart (Utf8.encode source)
  match tokenAt (source.length + 2) m with
  | (.string parts, stop) => nodeBetween .string m stop parts
  | _ => default

theorem isQuoted_literalAtStart {source t : Text} (ht : Utf8.decode? (Utf8.encode source) = some t)
    (hkind : (literalAtStart source).kind = .string) : (literalAtStart source).IsQuoted := by
  rw [literalAtStart] at hkind ⊢
  split
  next parts stop hread => exact isQuoted_of_tokenAt (Mark.isWellFormed_atStart ht) hread
  next hnone =>
    split at hkind
    next hread => exact absurd hread (hnone _ _)
    · cases hkind

end ComponentIndex.Script
