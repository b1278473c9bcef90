/-
**Octal escapes.**

In the language an octal escape takes up to three digits if the first one is at most three, and up to
two if it is greater, so that it never names a character above `U+00FF`; a further digit stands for
itself.  The tokens of literals are cut otherwise, up to three digits each, and an escape is decoded
as it is cut.  The two readings of a literal part where an escape of three digits begins with one
above three, and only there.

Main definitions:

* `ComponentIndex.Script.legacyDigits`, `ComponentIndex.Script.legacyValue` — the escapes and the value
  of a text as the language reads it;
* `ComponentIndex.Script.Node.isOverlong` — an escape of more digits than the language takes.

Main results:

* `ComponentIndex.Script.Pieces.legacyValue_flatMap` — the language reads a literal piece by piece;
* `ComponentIndex.Script.Node.stringValue?_octal` — **where the value of a literal is that of the
  language**;
* `ComponentIndex.Script.stringValue?_ne_legacyValue` — a literal where it is not.
-/

import ComponentIndex.Proofs.Script.Surrogate
import ComponentIndex.Proofs.Script.Unquoted

set_option relaxedAutoImplicit false
set_option autoImplicit false

namespace ComponentIndex.Script

/-! ### The reading of the language -/

/-- How many digits an octal escape may take that begins a text: three if the first one is at most
three, else two. -/
def legacyLimit (t : Text) : Nat := if t.head?.any (·.isBetween '0' '3') then 3 else 2

/-- The digits that an octal escape takes behind its backslash. -/
def legacyDigits (t : Text) : Text := (t.takeWhile CodePoint.isOctalDigit).take (legacyLimit t)

/-- The value of a text, behind some code points that belong to an escape before them. -/
def legacyValueBehind : Nat → Text → Text
  | _, [] => []
  | skip + 1, _ :: t => legacyValueBehind skip t
  | 0, c :: t =>
    let digits := legacyDigits t
    if c = ('\\' : CodePoint) && digits != [] then
      (CodePoint.ofNat? (Text.digitValue 8 digits)).toList ++ legacyValueBehind digits.length t
    else c :: legacyValueBehind 0 t

/-- The value of the text between the quotes of a literal, if its escapes are octal. -/
def legacyValue (t : Text) : Text := legacyValueBehind 0 t

example : legacyValue "\\18\\400\\0778" = "\x018\x200\x3f8" := by decide

theorem legacyValueBehind_eq (skip : Nat) (t : Text) :
    legacyValueBehind skip t = legacyValue (t.drop skip) := by
  induction t generalizing skip with
  | nil => cases skip <;> rfl
  | cons c t ih =>
      cases skip with
      | zero => rfl
      | succ skip => exact ih skip

theorem legacyValue_nil : legacyValue [] = [] := rfl

/-- A code point that is no backslash stands for itself. -/
theorem legacyValue_cons_of_ne {c : CodePoint} (hc : c ≠ '\\') (t : Text) :
    legacyValue (c :: t) = c :: legacyValue t := by
  rw [legacyValue, legacyValueBehind]
  simp [hc, legacyValue]

theorem legacyValue_append_of_plain {s : Text} (hs : ∀ c ∈ s, c ≠ ('\\' : CodePoint)) (t : Text) :
    legacyValue (s ++ t) = s ++ legacyValue t := by
  induction s with
  | nil => rfl
  | cons c s ih =>
      obtain ⟨hc, hs⟩ := List.forall_mem_cons.1 hs
      rw [List.cons_append, legacyValue_cons_of_ne hc, ih hs, List.cons_append]

/-- A text without backslashes is its own value. -/
theorem legacyValue_of_plain {s : Text} (hs : ∀ c ∈ s, c ≠ ('\\' : CodePoint)) :
    legacyValue s = s := by
  have halone := legacyValue_append_of_plain hs []
  rwa [List.append_nil, legacyValue_nil, List.append_nil] at halone

/-- A backslash before octal digits is read together with them. -/
theorem legacyValue_backslash {t : Text} (h : legacyDigits t ≠ []) :
    legacyValue (('\\' : CodePoint) :: t) =
      (CodePoint.ofNat? (Text.digitValue 8 (legacyDigits t))).toList ++
        legacyValue (t.drop (legacyDigits t).length) := by
  rw [legacyValue, legacyValueBehind, legacyValueBehind_eq]
  simp [h]

/-! ### Octal escapes as they are cut -/

theorem isOctalEscape_iff {body : Text} :
    isOctalEscape body = true ↔
      body ≠ [] ∧ body.length ≤ 3 ∧ ∀ c ∈ body, c.isOctalDigit = true := by
  simp [isOctalEscape, and_assoc]

theorem not_backslash_of_isOctalDigit {c : CodePoint} (h : c.isOctalDigit = true) : c ≠ '\\' := by
  rintro rfl
  exact absurd h (by decide)

theorem legacyLimit_bounds (t : Text) : 2 ≤ legacyLimit t ∧ legacyLimit t ≤ 3 := by
  rw [legacyLimit]
  split <;> omega

theorem legacyLimit_append {body : Text} (h : body ≠ []) (t : Text) :
    legacyLimit (body ++ t) = legacyLimit body := by
  rw [legacyLimit, legacyLimit, List.head?_append_of_ne_nil _ h]

/-- Of the digits that were cut the language takes the first ones. -/
theorem legacyDigits_append {body t : Text} (h : isOctalEscape body = true)
    (greedy : body.length < 3 → ∀ c ∈ t.head?, c.isOctalDigit = false) :
    legacyDigits (body ++ t) = body.take (legacyLimit body) := by
  obtain ⟨hne, hlength, hdigits⟩ := isOctalEscape_iff.1 h
  rw [legacyDigits, legacyLimit_append hne, List.takeWhile_append_of_pos hdigits]
  rcases Nat.lt_or_ge body.length 3 with hlt | hge
  · have hstop : t.takeWhile CodePoint.isOctalDigit = [] := by
      cases t with
      | nil => rfl
      | cons c t => exact List.takeWhile_cons_of_neg (by simp [greedy hlt c rfl])
    rw [hstop, List.append_nil]
  · exact List.take_append_of_le_length (Nat.le_trans (legacyLimit_bounds body).2 hge)

/-- Behind an escape the language goes on where it was cut, for the digits that the language leaves
stand for themselves. -/
theorem legacyValue_octal_append {body t : Text} (h : isOctalEscape body = true)
    (greedy : body.length < 3 → ∀ c ∈ t.head?, c.isOctalDigit = false) :
    legacyValue (('\\' : CodePoint) :: (body ++ t)) =
      (CodePoint.ofNat? (Text.digitValue 8 (body.take (legacyLimit body)))).toList ++
        (body.drop (legacyLimit body) ++ legacyValue t) := by
  obtain ⟨hne, -, hdigits⟩ := isOctalEscape_iff.1 h
  have htaken := legacyDigits_append h greedy
  have hne' : body.take (legacyLimit body) ≠ [] := by
    have hlimit : legacyLimit body ≠ 0 := by
      have := legacyLimit_bounds body
      omega
    simp [hne, hlimit]
  have hplain : ∀ c ∈ body.drop (legacyLimit body), c ≠ ('\\' : CodePoint) := fun c hc =>
    not_backslash_of_isOctalDigit (hdigits c (List.mem_of_mem_drop hc))
  rw [legacyValue_backslash (by rwa [htaken]), htaken, ← legacyValue_append_of_plain hplain]
  congr 2
  rw [List.length_take]
  rcases Nat.le_total (legacyLimit body) body.length with hle | hle
  · rw [Nat.min_eq_left hle, List.drop_append_of_le_length hle]
  · rw [Nat.min_eq_right hle, List.drop_left, List.drop_of_length_le hle, List.nil_append]

/-- The language reads an escape alone as it reads it before other text. -/
theorem legacyValue_octal {body : Text} (h : isOctalEscape body = true) :
    legacyValue (('\\' : CodePoint) :: body) =
      (CodePoint.ofNat? (Text.digitValue 8 (body.take (legacyLimit body)))).toList ++
        body.drop (legacyLimit body) := by
  have hvalue := legacyValue_octal_append (t := []) h fun _ => nofun
  rwa [legacyValue_nil, List.append_nil, List.append_nil] at hvalue

/-- Three octal digits name a number above `0xFF` exactly if the first one is greater than three, and
less digits never do. -/
theorem digitValue_octal_bounds {body : Text} (h : isOctalEscape body = true) :
    Text.digitValue 8 body < 0o1000 ∧
      (0xFF < Text.digitValue 8 body ↔ legacyLimit body < body.length) := by
  obtain ⟨hne, hlength, hdigits⟩ := isOctalEscape_iff.1 h
  rcases body with _ | ⟨a, _ | ⟨b, _ | ⟨c, _ | ⟨d, rest⟩⟩⟩⟩
  case nil => exact absurd rfl hne
  case cons.cons.cons.cons =>
    simp only [List.length_cons] at hlength
    omega
  -- One, two and three digits.
  all_goals
    simp only [List.forall_mem_cons, CodePoint.isOctalDigit, CodePoint.isBetween, Bool.and_eq_true,
      decide_eq_true_eq, Char.reduceToNat] at hdigits
    simp only [Text.digitValue, Text.valueInBase, List.map_cons, List.map_nil, List.foldl_cons,
      List.foldl_nil, legacyLimit, List.head?_cons, Option.any_some, CodePoint.isBetween,
      Bool.and_eq_true, decide_eq_true_eq, List.length_cons, List.length_nil, Char.reduceToNat]
    split <;> omega

/-- An escape of octal digits stands for the character they name. -/
theorem exists_decodeEscape_octal {body : Text} (h : isOctalEscape body = true) :
    ∃ c, decodeEscape body = [c] ∧ c.val = Text.digitValue 8 body := by
  obtain ⟨hne, hlength, hdigits⟩ := isOctalEscape_iff.1 h
  have hlt := (digitValue_octal_bounds h).1
  refine ⟨⟨Text.digitValue 8 body, by omega⟩, ?_, rfl⟩
  exact decodeEscape_octal (numeral_octal_iff.2 ⟨List.all_eq_true.2 hdigits, rfl⟩) hne hlength

/-! ### The pieces of a literal -/

namespace Node

/-- An escape that was cut with more digits than the language takes. -/
def isOverlong (n : Node) : Bool :=
  n.kind = .escapeSequence && legacyLimit (n.text.drop 1) < (n.text.drop 1).length

/-- All escape sequences among some nodes are octal. -/
def OctalAmong (ns : List Node) : Prop :=
  ∀ n ∈ ns, n.kind = .escapeSequence → isOctalEscape (n.text.drop 1) = true

instance (ns : List Node) : Decidable (OctalAmong ns) :=
  inferInstanceAs (Decidable (∀ n ∈ ns, _ → _))

variable {n : Node} {body : Text}

theorem isOverlong_of_fragment (h : n.kind = .stringFragment) : n.isOverlong = false := by
  rw [isOverlong, h]
  rfl

theorem IsEscape.drop_text (h : n.IsEscape body) : n.text.drop 1 = body := by
  rw [h.text, List.drop_one, List.tail_cons]

theorem IsEscape.isOverlong_eq (h : n.IsEscape body) :
    n.isOverlong = decide (legacyLimit body < body.length) := by
  rw [isOverlong, h.kind, h.drop_text]
  rfl

/-- The decoder and the language agree on an escape, but for one digit that the language leaves if the
escape is overlong. -/
theorem IsEscape.legacyValue_eq (hn : n.IsEscape body) (h : isOctalEscape body = true) :
    (n.isOverlong = false → legacyValue n.text = n.fragmentValue) ∧
      (n.isOverlong = true → (legacyValue n.text).length = n.fragmentValue.length + 1) := by
  obtain ⟨hne, hlength, hdigits⟩ := isOctalEscape_iff.1 h
  have hbounds := legacyLimit_bounds body
  obtain ⟨c, hc, hval⟩ := exists_decodeEscape_octal h
  rw [hn.isOverlong_eq, hn.text, hn.fragmentValue_eq, legacyValue_octal h, hc]
  constructor
  · intro hlimit
    rw [decide_eq_false_iff_not, Nat.not_lt] at hlimit
    rw [List.take_of_length_le hlimit, List.drop_of_length_le hlimit, ← hval, CodePoint.ofNat?_val]
    rfl
  · intro hlimit
    rw [decide_eq_true_eq] at hlimit
    have htaken : isOctalEscape (body.take (legacyLimit body)) = true := by
      refine isOctalEscape_iff.2 ⟨?_, ?_, fun c hc => hdigits c (List.mem_of_mem_take hc)⟩
      · rw [← List.length_pos_iff, List.length_take]
        omega
      · rw [List.length_take]
        omega
    obtain ⟨d, -, hd⟩ := exists_decodeEscape_octal htaken
    rw [← hd, CodePoint.ofNat?_val, Option.toList_some, List.length_append, List.length_drop,
      List.length_singleton, List.length_singleton]
    omega

/-- An octal escape stands for one character, which is above `U+00FF` exactly if the escape is
overlong. -/
theorem IsEscape.exists_fragmentValue_octal (hn : n.IsEscape body) (h : isOctalEscape body = true) :
    ∃ c, n.fragmentValue = [c] ∧ c.val = Text.digitValue 8 body ∧ c.isSurrogate = false ∧
      (0xFF < c.val ↔ n.isOverlong = true) := by
  obtain ⟨hlt, hiff⟩ := digitValue_octal_bounds h
  obtain ⟨c, hc, hval⟩ := exists_decodeEscape_octal h
  refine ⟨c, by rw [hn.fragmentValue_eq, hc], hval, ?_, ?_⟩
  · rw [CodePoint.isSurrogate, Bool.and_eq_false_iff, decide_eq_false_iff_not]
    omega
  · rw [hval, hiff, hn.isOverlong_eq, decide_eq_true_eq]

end Node

namespace Pieces

variable {quote : CodePoint} {ns : List Node}

/-- The language reads a literal piece by piece, if its escapes are octal. -/
theorem legacyValue_flatMap (h : Pieces quote ns) (hoctal : Node.OctalAmong ns) :
    legacyValue (ns.flatMap Node.text) = ns.flatMap fun n => legacyValue n.text := by
  induction h with
  | nil => rfl
  | fragment kind plain rest ih =>
      obtain ⟨-, hns⟩ := List.forall_mem_cons.1 hoctal
      have hplain := fun c hc => (plain c hc).2
      rw [List.flatMap_cons, List.flatMap_cons, legacyValue_append_of_plain hplain, ih hns,
        legacyValue_of_plain hplain]
  | @escape n ns body escape greedy rest ih =>
      obtain ⟨hn, hns⟩ := List.forall_mem_cons.1 hoctal
      have hbody := hn escape.kind
      rw [escape.drop_text] at hbody
      rw [List.flatMap_cons, List.flatMap_cons, escape.text, List.cons_append,
        legacyValue_octal_append hbody (greedy hbody), legacyValue_octal hbody, ih hns,
        List.append_assoc]

/-- A piece is a fragment, which has no backslash, or an octal escape. -/
theorem fragment_or_octal (h : Pieces quote ns) (hoctal : Node.OctalAmong ns) {n : Node}
    (hn : n ∈ ns) :
    (n.kind = .stringFragment ∧ ∀ c ∈ n.text, c ≠ ('\\' : CodePoint)) ∨
      ∃ body, n.IsEscape body ∧ isOctalEscape body = true := by
  induction h with
  | nil => cases hn
  | fragment kind plain _ ih =>
      obtain ⟨-, hns⟩ := List.forall_mem_cons.1 hoctal
      rcases List.mem_cons.1 hn with rfl | hn
      · exact .inl ⟨kind, fun c hc => (plain c hc).2⟩
      · exact ih hns hn
  | escape escape _ _ ih =>
      obtain ⟨hfirst, hns⟩ := List.forall_mem_cons.1 hoctal
      rcases List.mem_cons.1 hn with rfl | hn
      · exact .inr ⟨_, escape, escape.drop_text ▸ hfirst escape.kind⟩
      · exact ih hns hn

/-- The decoder and the language agree on a piece, but for one digit that the language leaves if the
piece is overlong. -/
theorem legacyValue_eq (h : Pieces quote ns) (hoctal : Node.OctalAmong ns) {n : Node}
    (hn : n ∈ ns) :
    (n.isOverlong = false → legacyValue n.text = n.fragmentValue) ∧
      (n.isOverlong = true → (legacyValue n.text).length = n.fragmentValue.length + 1) := by
  rcases h.fragment_or_octal hoctal hn with ⟨hkind, hplain⟩ | ⟨body, hescape, hbody⟩
  · rw [legacyValue_of_plain hplain, Node.fragmentValue, hkind, Node.isOverlong_of_fragment hkind]
    exact ⟨fun _ => rfl, fun h => absurd h Bool.false_ne_true⟩
  · exact hescape.legacyValue_eq hbody

/-- The value in the language is longer than the decoded one by one digit for each overlong escape. -/
theorem length_legacyValue (h : Pieces quote ns) (hoctal : Node.OctalAmong ns) :
    (legacyValue (ns.flatMap Node.text)).length =
      (ns.flatMap Node.fragmentValue).length + ns.countP Node.isOverlong := by
  rw [h.legacyValue_flatMap hoctal]
  have hpieces := fun n hn => h.legacyValue_eq hoctal (n := n) hn
  clear h hoctal
  induction ns with
  | nil => rfl
  | cons n ns ih =>
      obtain ⟨⟨hsame, hlonger⟩, hns⟩ := List.forall_mem_cons.1 hpieces
      have hrest := ih hns
      rw [List.flatMap_cons, List.flatMap_cons, List.length_append, List.length_append]
      cases hlimit : n.isOverlong with
      | false =>
          rw [List.countP_cons_of_neg (by simp [hlimit]), hsame hlimit]
          omega
      | true =>
          rw [List.countP_cons_of_pos hlimit, hlonger hlimit]
          omega

/-- The values of pieces have no surrogates if the pieces have none. -/
theorem isScalar_flatMap (h : Pieces quote ns) (hoctal : Node.OctalAmong ns)
    (hscalar : Text.isScalar (ns.flatMap Node.text) = true) :
    Text.isScalar (ns.flatMap Node.fragmentValue) = true := by
  rw [Text.isScalar, List.all_eq_true] at hscalar ⊢
  intro c hc
  obtain ⟨n, hn, hmem⟩ := List.mem_flatMap.1 hc
  rcases h.fragment_or_octal hoctal hn with ⟨hkind, -⟩ | ⟨body, hescape, hbody⟩
  · rw [Node.fragmentValue, hkind] at hmem
    exact hscalar c (List.mem_flatMap.2 ⟨n, hn, hmem⟩)
  · obtain ⟨d, hd, -, hsurrogate, -⟩ := hescape.exists_fragmentValue_octal hbody
    rw [hd, List.mem_singleton] at hmem
    rw [hmem, hsurrogate]
    rfl

end Pieces

/-! ### The value of a literal -/

namespace Node

/-- Overlong escapes are no punctuation. -/
theorem countP_isOverlong_namedChildren (n : Node) :
    n.namedChildren.countP isOverlong = n.children.countP isOverlong := by
  rw [namedChildren, List.countP_filter]
  refine List.countP_congr fun p _ => ?_
  rw [Bool.and_eq_true, and_iff_left_iff_imp, isOverlong, Bool.and_eq_true, decide_eq_true_eq]
  rintro ⟨hkind, -⟩
  rw [hkind]
  rfl

/-- **Where the value of a literal is that of the language**: if its escapes are octal, exactly where
none of them is overlong.  An escape stands for the one character that its digits name, which is above
`U+00FF` if the escape is overlong, and the language has one digit more there. -/
theorem stringValue?_octal {n : Node} (hn : n.IsQuoted) (hscalar : n.text.isScalar = true)
    (hoctal : OctalAmong n.children) :
    ∃ v, n.stringValue? = some v ∧ v = n.spelledValue ∧
      (v = legacyValue n.unquotedText ↔ ∀ p ∈ n.children, p.isOverlong = false) ∧
      (legacyValue n.unquotedText).length = v.length + n.children.countP isOverlong ∧
      ∀ p ∈ n.children, p.kind = .escapeSequence →
        ∃ c, p.fragmentValue = [c] ∧ c.val = Text.digitValue 8 (p.text.drop 1) ∧
          (0xFF < c.val ↔ p.isOverlong = true) := by
  obtain ⟨-, quote, -, hpieces, -⟩ := id hn
  have hoctal' : OctalAmong n.namedChildren := fun p hp => hoctal p (List.mem_of_mem_filter hp)
  have hvalue : Utf16.joinPairs n.spelledValue = n.spelledValue := by
    refine Utf16.joinPairs_of_isScalar ?_
    rw [spelledValue_eq]
    refine hpieces.isScalar_flatMap hoctal' ?_
    rw [← hn.unquotedText_eq]
    exact isScalar_unquotedText hn hscalar
  have hlength := hpieces.length_legacyValue hoctal'
  rw [← hn.unquotedText_eq, ← spelledValue_eq, countP_isOverlong_namedChildren] at hlength
  refine ⟨n.spelledValue, by rw [stringValue?_of_kind hn.kind, hvalue], rfl, ⟨?_, ?_⟩, hlength, ?_⟩
  · -- An overlong escape would make the two values differ in length.
    intro heq
    rw [← heq] at hlength
    have hnone : n.children.countP isOverlong = 0 := by omega
    simpa using List.countP_eq_zero.1 hnone
  · intro hlimit
    rw [spelledValue_eq, hn.unquotedText_eq, hpieces.legacyValue_flatMap hoctal']
    refine List.flatMap_congr fun p hp => ?_
    exact ((hpieces.legacyValue_eq hoctal' hp).1 (hlimit p (List.mem_of_mem_filter hp))).symm
  · intro p hp hkind
    have hnamed : p ∈ n.namedChildren := List.mem_filter.2 ⟨hp, by rw [hkind]; rfl⟩
    rcases hpieces.fragment_or_octal hoctal' hnamed with ⟨hfragment, -⟩ | ⟨body, hescape, hbody⟩
    · rw [hkind] at hfragment
      cases hfragment
    · obtain ⟨c, hc, hval, -, hiff⟩ := hescape.exists_fragmentValue_octal hbody
      exact ⟨c, hc, by rwa [hescape.drop_text], hiff⟩

/-- A literal of octal escapes of all lengths with digits behind them, one of which is overlong. -/
def literalOfOctalEscapes : Node := literalAtStart "'\\18\\0\\47\\3771\\400'"

theorem stringValue?_octal_overlong :
    literalOfOctalEscapes.IsQuoted ∧ literalOfOctalEscapes.text.isScalar = true ∧
      OctalAmong literalOfOctalEscapes.children ∧
      ∃ v, literalOfOctalEscapes.stringValue? = some v ∧
        v ≠ legacyValue literalOfOctalEscapes.unquotedText ∧
        (legacyValue literalOfOctalEscapes.unquotedText).length = v.length + 1 := by
  have hn : literalOfOctalEscapes.IsQuoted :=
    isQuoted_literalAtStart (t := "'\\18\\0\\47\\3771\\400'") (by decide) (by decide)
  have hscalar : literalOfOctalEscapes.text.isScalar = true := by decide
  have hoctal : OctalAmong literalOfOctalEscapes.children := by decide
  have hcount : literalOfOctalEscapes.children.countP isOverlong = 1 := by decide
  obtain ⟨v, hv, -, heq, hlength, -⟩ := stringValue?_octal hn hscalar hoctal
  rw [hcount] at hlength
  refine ⟨hn, hscalar, hoctal, v, hv, ?_, hlength⟩
  intro h
  rw [h] at hlength
  omega

end Node

/-- The escape of three digits in `'\\400'` is decoded to one character above `U+00FF`, and in the
language it is a space and a digit. -/
theorem stringValue?_ne_legacyValue :
    ∃ n c, stringLiteralsOf "'\\400'" = [n] ∧ Node.OctalAmong n.children ∧
      n.stringValue? = some [c] ∧ 0xFF < c.val ∧ legacyValue n.unquotedText = " 0" := by
  obtain ⟨n, hn⟩ : ∃ n, stringLiteralsOf "'\\400'" = [n] :=
    List.length_eq_one_iff.1 (by decide +kernel)
  have hoctal : ∀ n ∈ stringLiteralsOf "'\\400'", Node.OctalAmong n.children := by
    decide +kernel
  have hvalue : (stringLiteralsOf "'\\400'").map Node.stringValue? =
      [some [⟨0x100, by decide⟩]] := by
    decide +kernel
  have hlegacy : ∀ n ∈ stringLiteralsOf "'\\400'", legacyValue n.unquotedText = " 0" := by
    decide +kernel
  rw [hn, List.map_singleton, List.singleton_inj] at hvalue
  rw [hn, List.forall_mem_singleton] at hoctal hlegacy
  exact ⟨n, _, hn, hoctal, hvalue, by decide, hlegacy⟩

end ComponentIndex.Script
