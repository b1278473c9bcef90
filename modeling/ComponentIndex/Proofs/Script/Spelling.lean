/-
**Spellings of string literals.**

One text has many spellings as a string literal.  Each of its characters stands for itself or is
written as an escape sequence, by its number or in one of the short forms; a character outside the
basic plane may be written as the two escapes of its surrogates; and lines may be continued
anywhere.  All of them have the same value.

Main definitions:

* `ComponentIndex.Script.HexEscape`, `ComponentIndex.Script.EscapeSpells` — what may follow a
  backslash for one character;
* `ComponentIndex.Script.Spells` — pieces of a literal that spell a text;
* `ComponentIndex.Script.Node.IsLiteralOf` — a string literal that spells a text.

Main results:

* `ComponentIndex.Script.EscapeSpells.decodeEscape_eq` — an escape stands for its character;
* `ComponentIndex.Script.Node.stringValue?_of_isLiteralOf` — **the value of a literal is the text it
  spells**.
-/

import ComponentIndex.Proofs.Text.Numeral
import ComponentIndex.Proofs.Text.Utf16
import ComponentIndex.Script.StringLiteral

set_option relaxedAutoImplicit false
set_option autoImplicit false

namespace ComponentIndex.Script

/-! ### Escapes -/

/-- The text after a backslash gives a number in hexadecimal digits: two digits behind `x`, four
behind `u`, or any number of them in braces behind `u`. -/
inductive HexEscape : Nat → Text → Prop
  | two {n : Nat} {digits : Text} :
    Numeral 16 n digits → digits.length = 2 → HexEscape n ('x' :: digits)
  | four {n : Nat} {digits : Text} :
    Numeral 16 n digits → digits.length = 4 → HexEscape n ('u' :: digits)
  | braced {n : Nat} {digits : Text} :
    Numeral 16 n digits → digits ≠ [] →
      HexEscape n ('u' :: '\x7b' :: (digits ++ [('\x7d' : CodePoint)]))

/-- The letters that name control characters. -/
def controlLetters : List (CodePoint × CodePoint) :=
  [('n', '\n'), ('t', '\t'), ('r', '\r'), ('b', '\x08'), ('f', '\x0c'), ('v', '\x0b')]

/-- The characters that do not stand for themselves behind a backslash. -/
def escapeCharacters : Text := "xu01234567ntrbfv\n\r\u2028\u2029"

/-- The texts after a backslash that stand for one character. -/
inductive EscapeSpells (c : CodePoint) : Text → Prop
  /-- Its number in hexadecimal digits. -/
  | hex {body : Text} : HexEscape c.val body → EscapeSpells c body
  /-- Its number in one to three octal digits. -/
  | octal {body : Text} :
    Numeral 8 c.val body → body ≠ [] → body.length ≤ 3 → c.val ≤ 0o377 → EscapeSpells c body
  /-- The letter that names it. -/
  | letter {l : CodePoint} : (l, c) ∈ controlLetters → EscapeSpells c [l]
  /-- The character itself. -/
  | itself : c ∉ escapeCharacters → EscapeSpells c [c]

/-- The texts after a backslash that continue a line. -/
def lineContinuations : List Text := ["\n", "\r", "\r\n", "\u2028", "\u2029"]

/-! ### The value of an escape -/

/-- The digits of an escape are found, whichever form it has. -/
theorem HexEscape.hexEscapeDigits?_eq {n : Nat} {body : Text} (h : HexEscape n body) :
    ∃ digits, hexEscapeDigits? body = some digits ∧ Text.hexValue digits = n := by
  cases h with
  | two hn hlength =>
      obtain ⟨hall, hvalue⟩ := numeral_hex_iff.1 hn
      refine ⟨_, ?_, hvalue⟩
      rw [hexEscapeDigits?.eq_def]
      dsimp only
      rw [if_pos rfl, if_pos (by simp [hlength, hall])]
  | @four digits hn hlength =>
      obtain ⟨hall, hvalue⟩ := numeral_hex_iff.1 hn
      refine ⟨digits, ?_, hvalue⟩
      cases digits with
      | nil => simp at hlength
      | cons d inner =>
          -- A brace is no digit, so the digits are not taken for a braced escape.
          have hbrace : d ≠ ('\x7b' : CodePoint) := by
            rintro rfl
            rw [List.all_cons, Bool.and_eq_true] at hall
            exact absurd hall.1 (by decide)
          rw [hexEscapeDigits?, if_neg (by decide), if_pos rfl, if_neg hbrace,
            if_pos (by simp only [hlength, hall]; rfl)]
  | @braced digits hn hne =>
      obtain ⟨hall, hvalue⟩ := numeral_hex_iff.1 hn
      refine ⟨digits, ?_, hvalue⟩
      have hlength : 1 ≤ digits.length := List.length_pos_iff.2 hne
      rw [hexEscapeDigits?, if_neg (by decide), if_pos rfl, if_pos rfl, List.dropLast_concat,
        if_pos]
      simp [hall, hlength]

/-- An escape that gives a number does not continue a line. -/
theorem HexEscape.exists_cons {n : Nat} {body : Text} (h : HexEscape n body) :
    ∃ c rest, body = c :: rest ∧ isLineTerminator c = false := by
  cases h with
  | two _ _ => exact ⟨_, _, rfl, by decide⟩
  | four _ _ => exact ⟨_, _, rfl, by decide⟩
  | braced _ _ => exact ⟨_, _, rfl, by decide⟩

/-- An escape stands for the code point whose number it gives, which may be a surrogate. -/
theorem HexEscape.decodeEscape_eq {c : CodePoint} {body : Text} (h : HexEscape c.val body) :
    decodeEscape body = [c] := by
  obtain ⟨digits, hdigits, hvalue⟩ := h.hexEscapeDigits?_eq
  obtain ⟨head, rest, rfl, hline⟩ := h.exists_cons
  rw [decodeEscape, if_neg (by simp [hline]), hdigits]
  dsimp only
  rw [hvalue, CodePoint.ofNat?_val]

/-- Octal digits name a code point. -/
theorem decodeEscape_octal {c : CodePoint} {body : Text} (hn : Numeral 8 c.val body)
    (hne : body ≠ []) (hlength : body.length ≤ 3) : decodeEscape body = [c] := by
  obtain ⟨hall, hvalue⟩ := numeral_octal_iff.1 hn
  cases body with
  | nil => exact absurd rfl hne
  | cons head rest =>
      have hhead : head.isOctalDigit = true := by
        rw [List.all_cons, Bool.and_eq_true] at hall
        exact hall.1
      -- An octal digit ends no line and opens no hexadecimal escape.
      have hline : isLineTerminator head = false := by
        simp [CodePoint.isOctalDigit, CodePoint.isBetween, isLineTerminator] at hhead ⊢
        omega
      have hhex : hexEscapeDigits? (head :: rest) = none := by
        rw [hexEscapeDigits?.eq_def]
        dsimp only
        rw [if_neg, if_neg]
        all_goals
          rintro rfl
          exact absurd hhead (by decide)
      have hoctal : isOctalEscape (head :: rest) = true := by
        rw [isOctalEscape, hall, decide_eq_true hlength]
        rfl
      rw [decodeEscape, if_neg (by simp [hline]), hhex]
      dsimp only
      rw [if_pos hoctal, hvalue, CodePoint.ofNat?_val]

/-- A letter behind a backslash names a control character. -/
theorem decodeEscape_letter {l c : CodePoint} (h : (l, c) ∈ controlLetters) :
    decodeEscape [l] = [c] := by
  have hletters : ∀ p ∈ controlLetters, decodeEscape [p.1] = [p.2] := by decide
  exact hletters (l, c) h

/-- Other characters stand for themselves behind a backslash. -/
theorem decodeEscape_itself {c : CodePoint} (h : c ∉ escapeCharacters) :
    decodeEscape [c] = [c] := by
  have hne : ∀ d ∈ escapeCharacters, c ≠ d := by
    rintro d hd rfl
    exact h hd
  have hval : ∀ n, (∃ d ∈ escapeCharacters, d.val = n) → c.val ≠ n := by
    rintro n ⟨d, hd, rfl⟩ hn
    exact hne d hd (ComponentIndex.CodePoint.ext_val hn)
  have hline : isLineTerminator c = false := by
    simp [isLineTerminator, hval 0x0A (by decide), hval 0x0D (by decide), hval 0x2028 (by decide),
      hval 0x2029 (by decide)]
  have hhex : hexEscapeDigits? [c] = none := by
    rw [hexEscapeDigits?, if_neg (hne 'x' (by decide)), if_neg (hne 'u' (by decide))]
  have hoctal : isOctalEscape [c] = false := by
    have hdigits : ∀ n ≤ 55, 48 ≤ n → ∃ d ∈ escapeCharacters, d.val = n := by decide
    rw [Bool.eq_false_iff]
    intro htrue
    obtain ⟨hlo, hhi⟩ : 48 ≤ c.val ∧ c.val ≤ 55 := by
      simpa [isOctalEscape, CodePoint.isOctalDigit, CodePoint.isBetween] using htrue
    exact hval c.val (hdigits c.val hhi hlo) rfl
  have hletter : controlOfLetter? c = none := by
    rw [controlOfLetter?, if_neg (hne 'n' (by decide)), if_neg (hne 't' (by decide)),
      if_neg (hne 'r' (by decide)), if_neg (hne 'b' (by decide)), if_neg (hne 'f' (by decide)),
      if_neg (hne 'v' (by decide))]
  rw [decodeEscape, if_neg (by simp [hline]), hhex]
  dsimp only
  rw [if_neg (by simp [hoctal]), if_pos rfl, hletter]

/-- An escape stands for its character. -/
theorem EscapeSpells.decodeEscape_eq {c : CodePoint} {body : Text} (h : EscapeSpells c body) :
    decodeEscape body = [c] := by
  cases h with
  | hex h => exact h.decodeEscape_eq
  | octal hn hne hlength _ => exact decodeEscape_octal hn hne hlength
  | letter h => exact decodeEscape_letter h
  | itself h => exact decodeEscape_itself h

/-! ### Literals -/

/-- The node is an escape sequence with the given text after its backslash. -/
structure Node.IsEscape (body : Text) (n : Node) : Prop where
  /-- It is an escape sequence. -/
  kind : n.kind = .escapeSequence
  /-- Its text is a backslash and what follows it. -/
  text : n.text = ('\\' : CodePoint) :: body

/-- The node is an escape sequence that continues a line. -/
def Node.ContinuesLine (n : Node) : Prop := ∃ body ∈ lineContinuations, n.IsEscape body

/-- The pieces of a string literal spell a text. What a fragment can hold is left to the literal:
a fragment stands for its own text, whatever that is. -/
inductive Spells : Text → List Node → Prop
  | nil : Spells [] []
  /-- Quotes stand for nothing. -/
  | quote {t q : Text} {n : Node} {ns : List Node} :
    n.kind = .token q → Spells t ns → Spells t (n :: ns)
  /-- A line is continued between two characters. -/
  | continuation {t : Text} {n : Node} {ns : List Node} :
    n.ContinuesLine → Spells t ns → Spells t (n :: ns)
  /-- Characters stand for themselves. -/
  | fragment {t : Text} {n : Node} {ns : List Node} :
    n.kind = .stringFragment → Spells t ns → Spells (n.text ++ t) (n :: ns)
  /-- A character is escaped. -/
  | escape {t body : Text} {c : CodePoint} {n : Node} {ns : List Node} :
    n.IsEscape body → EscapeSpells c body → Spells t ns → Spells (c :: t) (n :: ns)
  /-- The two halves of a character are escaped, and lines may be continued between them. -/
  | pair {t body body' : Text} {c high low : CodePoint} {n n' : Node} {between ns : List Node} :
    Utf16.unitsOfPoint c = [high.val, low.val] →
    n.IsEscape body → HexEscape high.val body →
    (∀ m ∈ between, m.ContinuesLine) →
    n'.IsEscape body' → HexEscape low.val body' →
    Spells t ns → Spells (c :: t) (n :: (between ++ n' :: ns))

/-- The node is a string literal that spells a text. -/
structure Node.IsLiteralOf (t : Text) (n : Node) : Prop where
  /-- It is a string literal. -/
  kind : n.kind = .string
  /-- Its pieces spell the text. -/
  children : Spells t n.children

namespace Node

theorem IsEscape.fragmentValue_eq {n : Node} {body : Text} (h : n.IsEscape body) :
    n.fragmentValue = decodeEscape body := by
  rw [fragmentValue, h.kind]
  dsimp only
  rw [h.text, List.drop_one, List.tail_cons]

theorem ContinuesLine.fragmentValue_eq {n : Node} (h : n.ContinuesLine) :
    n.fragmentValue = [] := by
  obtain ⟨body, hbody, hn⟩ := h
  have hlines : ∀ body ∈ lineContinuations, decodeEscape body = [] := by decide
  rw [hn.fragmentValue_eq, hlines body hbody]

end Node

/-- The values of the pieces are the text up to its surrogate pairs, which are joined whatever the
escapes they come from. -/
theorem Spells.join?_eq {t : Text} {ns : List Node} (h : Spells t ns) (ht : t.isScalar = true) :
    Utf16.join? (ns.flatMap Node.fragmentValue) = some t := by
  induction h with
  | nil => rfl
  | @quote t q n ns hn hns ih =>
      have hvalue : n.fragmentValue = [] := by rw [Node.fragmentValue, hn]
      rw [List.flatMap_cons, hvalue, List.nil_append, ih ht]
  | continuation hn hns ih =>
      rw [List.flatMap_cons, hn.fragmentValue_eq, List.nil_append, ih ht]
  | @fragment t n ns hn hns ih =>
      rw [Text.isScalar, List.all_append, Bool.and_eq_true] at ht
      have hvalue : n.fragmentValue = n.text := by rw [Node.fragmentValue, hn]
      rw [List.flatMap_cons, hvalue, Utf16.join?_append ht.1, ih ht.2, Option.map_some]
  | @escape t body c n ns hn hc hns ih =>
      rw [Text.isScalar, List.all_cons, Bool.and_eq_true, Bool.not_eq_true'] at ht
      rw [List.flatMap_cons, hn.fragmentValue_eq, hc.decodeEscape_eq, List.singleton_append,
        Utf16.join?_cons ht.1, ih ht.2, Option.map_some]
  | @pair t body body' c high low n n' between ns hunits hn hhigh hbetween hn' hlow hns ih =>
      rw [Text.isScalar, List.all_cons, Bool.and_eq_true] at ht
      have hnothing : between.flatMap Node.fragmentValue = [] := by
        rw [List.flatMap_eq_nil_iff]
        exact fun m hm => (hbetween m hm).fragmentValue_eq
      have hjoined := Utf16.join?_pair hunits (ns.flatMap Node.fragmentValue)
      rw [ih ht.2, Option.map_some] at hjoined
      rw [List.flatMap_cons, List.flatMap_append, List.flatMap_cons, hnothing, List.nil_append,
        hn.fragmentValue_eq, hn'.fragmentValue_eq, hhigh.decodeEscape_eq, hlow.decodeEscape_eq]
      exact hjoined

namespace Node

/-- **The value of a string literal is the text it spells**, in whatever way it spells it. -/
theorem stringValue?_of_isLiteralOf {t : Text} {n : Node} (hn : n.IsLiteralOf t)
    (ht : t.isScalar = true) : n.stringValue? = some t := by
  rw [stringValue?, if_pos hn.kind, Utf16.joinPairs, spelledValue, hn.children.join?_eq ht,
    Option.getD_some]

/-- A piece of a literal. -/
def piece (kind : Kind) (text : String) : Node := ⟨kind, none, 0, Text.ofString text, []⟩

/-- The literal of a text that is spelled in many ways, with a line continued inside of a pair. -/
def spelledInManyWays : Node :=
  ⟨.string, none, 0,
    Text.ofString "'ab\\x63\\u\x7b00064\x7d\\145\\n\\q\\uD83D\\\r\n\\u\x7b0DE00\x7d'",
    [piece (.token "'") "'", piece .stringFragment "ab", piece .escapeSequence "\\x63",
      piece .escapeSequence "\\u\x7b00064\x7d", piece .escapeSequence "\\145",
      piece .escapeSequence "\\n", piece .escapeSequence "\\q", piece .escapeSequence "\\uD83D",
      piece .escapeSequence "\\\r\n", piece .escapeSequence "\\u\x7b0DE00\x7d",
      piece (.token "'") "'"]⟩

theorem stringValue?_of_isLiteralOf_manyWays :
    spelledInManyWays.IsLiteralOf "abcde\nq😀" ∧ Text.isScalar "abcde\nq😀" = true ∧
      spelledInManyWays.stringValue? = some "abcde\nq😀" := by
  have hhex : HexEscape 0x63 "x63" := .two (numeral_hex_iff.2 (by decide)) rfl
  have hbraced : HexEscape 0x64 "u\x7b00064\x7d" :=
    @HexEscape.braced _ "00064" (numeral_hex_iff.2 (by decide)) (by decide)
  have hoctal : Numeral 8 0x65 "145" := numeral_octal_iff.2 (by decide)
  have hhigh : HexEscape 0xD83D "uD83D" := .four (numeral_hex_iff.2 (by decide)) rfl
  have hlow : HexEscape 0xDE00 "u\x7b0DE00\x7d" :=
    @HexEscape.braced _ "0DE00" (numeral_hex_iff.2 (by decide)) (by decide)
  have hpair : Spells "😀" [piece .escapeSequence "\\uD83D", piece .escapeSequence "\\\r\n",
      piece .escapeSequence "\\u\x7b0DE00\x7d", piece (.token "'") "'"] :=
    @Spells.pair [] "uD83D" "u\x7b0DE00\x7d" _ ⟨0xD83D, by decide⟩ ⟨0xDE00, by decide⟩ _ _
      [piece .escapeSequence "\\\r\n"] _ (by decide) ⟨rfl, rfl⟩ hhigh
      (List.forall_mem_singleton.2 ⟨"\r\n", by decide, rfl, rfl⟩) ⟨rfl, rfl⟩ hlow (.quote rfl .nil)
  have hliteral : spelledInManyWays.IsLiteralOf "abcde\nq😀" := by
    refine ⟨rfl, .quote rfl (@Spells.fragment _ (piece .stringFragment "ab") _ rfl ?_)⟩
    refine @Spells.escape _ "x63" _ _ _ ⟨rfl, rfl⟩ (.hex hhex) ?_
    refine @Spells.escape _ "u\x7b00064\x7d" _ _ _ ⟨rfl, rfl⟩ (.hex hbraced) ?_
    refine @Spells.escape _ "145" _ _ _ ⟨rfl, rfl⟩
      (.octal hoctal (by decide) (by decide) (by decide)) ?_
    refine @Spells.escape _ "n" _ _ _ ⟨rfl, rfl⟩ (.letter (by decide)) ?_
    exact @Spells.escape _ "q" _ _ _ ⟨rfl, rfl⟩ (.itself (by decide)) hpair
  exact ⟨hliteral, by decide, stringValue?_of_isLiteralOf hliteral (by decide)⟩

end Node

end ComponentIndex.Script
