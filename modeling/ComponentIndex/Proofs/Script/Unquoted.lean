/-
**The value of a literal and its spelling.**

A component that is registered is named by the spelling of a literal without its quotes, other names
are values of literals.  A literal without escape sequences is spelled as its value is.  Every escape
sequence stands for less than it takes: at least the backslash is lost, and joining surrogate pairs
makes a value shorter still.

Main results:

* `ComponentIndex.Script.length_decodeEscape_le` — an escape stands for no more than what follows its
  backslash;
* `ComponentIndex.Script.Pieces.length_add_countP_le` — what the pieces of a literal lose;
* `ComponentIndex.Script.Node.unquotedText_eq_value_iff` — **the value of a literal is its spelling**
  exactly if it has no escape sequence.
-/

import ComponentIndex.Proofs.Script.Literal
import ComponentIndex.Proofs.Text.Surrogate

set_option relaxedAutoImplicit false
set_option autoImplicit false

namespace ComponentIndex

namespace Utf16

/-- Joining surrogate pairs makes no text longer. -/
theorem length_le_of_join? {s t : Text} (h : join? t = some s) : s.length ≤ t.length := by
  induction t using surrogateInduction generalizing s with
  | nil =>
      obtain rfl := Option.some.inj h
      exact Nat.le_refl _
  | scalar c t hc ih =>
      rw [join?_cons hc] at h
      obtain ⟨s, hs, rfl⟩ := Option.map_eq_some_iff.1 h
      exact Nat.succ_le_succ (ih hs)
  | pair high low t hhigh hlow ih =>
      rw [join?_pair (unitsOfPoint_joinPair hhigh hlow)] at h
      obtain ⟨s, hs, rfl⟩ := Option.map_eq_some_iff.1 h
      have := ih hs
      simp only [List.length_cons]
      omega
  | lone c t hlone =>
      rw [join?_of_isLone hlone] at h
      cases h

theorem length_joinPairs_le (t : Text) : (joinPairs t).length ≤ t.length := by
  rw [joinPairs]
  cases h : join? t with
  | none => exact Nat.le_refl _
  | some s => exact length_le_of_join? h

theorem joinPairs_of_isScalar {t : Text} (h : t.isScalar = true) : joinPairs t = t := by
  have hjoin := join?_append h []
  rw [List.append_nil] at hjoin
  rw [joinPairs, hjoin, join?, Option.map_some, List.append_nil, Option.getD_some]

end Utf16

namespace Script

/-! ### What an escape loses -/

/-- An escape stands for no more characters than follow its backslash. -/
theorem length_decodeEscape_le (body : Text) : (decodeEscape body).length ≤ body.length := by
  cases body with
  | nil => exact Nat.le_refl _
  | cons c rest =>
      rw [decodeEscape]
      repeat' split
      all_goals simp

namespace Pieces

variable {quote : CodePoint} {ns : List Node}

/-- The pieces of a literal lose at least one character for each escape sequence. -/
theorem length_add_countP_le (h : Pieces quote ns) :
    (ns.flatMap Node.fragmentValue).length + ns.countP (fun n => n.kind = .escapeSequence) ≤
      (ns.flatMap Node.text).length := by
  induction h with
  | nil => exact Nat.le_refl _
  | @fragment n ns kind plain rest ih =>
      have hvalue : n.fragmentValue = n.text := by rw [Node.fragmentValue, kind]
      rw [List.countP_cons_of_neg (by simp [kind]), List.flatMap_cons, List.flatMap_cons, hvalue,
        List.length_append, List.length_append]
      omega
  | @escape n ns body escape greedy rest ih =>
      have hlength := length_decodeEscape_le body
      rw [List.countP_cons_of_pos (by simp [escape.kind]), List.flatMap_cons, List.flatMap_cons,
        escape.fragmentValue_eq, escape.text, List.length_append, List.length_append,
        List.length_cons]
      omega

/-- Pieces without escape sequences stand for their own text. -/
theorem flatMap_fragmentValue (h : Pieces quote ns) (hplain : ∀ n ∈ ns, n.kind ≠ .escapeSequence) :
    ns.flatMap Node.fragmentValue = ns.flatMap Node.text := by
  induction h with
  | nil => rfl
  | @fragment n ns kind plain rest ih =>
      obtain ⟨-, hns⟩ := List.forall_mem_cons.1 hplain
      have hvalue : n.fragmentValue = n.text := by rw [Node.fragmentValue, kind]
      rw [List.flatMap_cons, List.flatMap_cons, hvalue, ih hns]
  | escape escape => exact absurd escape.kind (hplain _ List.mem_cons_self)

end Pieces

namespace Node

theorem isScalar_unquotedText {n : Node} (hn : n.IsQuoted) (hscalar : n.text.isScalar = true) :
    n.unquotedText.isScalar = true := by
  obtain ⟨-, quote, -, -, htext⟩ := id hn
  refine Text.isScalar_of_subset ?_ hscalar
  rw [hn.unquotedText_eq, htext]
  exact fun c hc => List.mem_cons_of_mem _ (List.mem_append_left _ hc)

/-- Escape sequences are no punctuation. -/
theorem exists_mem_namedChildren_iff {n : Node} :
    (∃ c ∈ n.namedChildren, c.kind = .escapeSequence) ↔
      ∃ c ∈ n.children, c.kind = .escapeSequence := by
  constructor
  · rintro ⟨c, hc, hkind⟩
    exact ⟨c, List.mem_of_mem_filter hc, hkind⟩
  · rintro ⟨c, hc, hkind⟩
    exact ⟨c, List.mem_filter.2 ⟨hc, by rw [hkind]; rfl⟩, hkind⟩

/-- **The value of a literal is its spelling** without the quotes exactly if the literal has no escape
sequence; with one the value is shorter. -/
theorem unquotedText_eq_value_iff {n : Node} (hn : n.IsQuoted) (hscalar : n.text.isScalar = true) :
    ∃ v, n.stringValue? = some v ∧
      (n.unquotedText = v ↔ ∀ c ∈ n.children, c.kind ≠ .escapeSequence) ∧
      ((∃ c ∈ n.children, c.kind = .escapeSequence) → v.length < n.unquotedText.length) := by
  obtain ⟨-, quote, -, hpieces, -⟩ := id hn
  have hshorter : (∃ c ∈ n.children, c.kind = .escapeSequence) →
      (Utf16.joinPairs n.spelledValue).length < n.unquotedText.length := by
    intro hescape
    have hjoin := Utf16.length_joinPairs_le n.spelledValue
    have hloss := hpieces.length_add_countP_le
    have hcount : 0 < n.namedChildren.countP fun c => c.kind = .escapeSequence := by
      rw [List.countP_pos_iff]
      simpa using exists_mem_namedChildren_iff.2 hescape
    rw [← spelledValue_eq, ← hn.unquotedText_eq] at hloss
    omega
  refine ⟨_, if_pos hn.kind, ⟨?_, ?_⟩, hshorter⟩
  · -- A literal with an escape sequence has a value of another length.
    intro heq c hc hkind
    have hlt := hshorter ⟨c, hc, hkind⟩
    rw [← heq] at hlt
    exact Nat.lt_irrefl _ hlt
  · intro hplain
    have hvalue : n.spelledValue = n.unquotedText := by
      rw [spelledValue_eq, hn.unquotedText_eq]
      exact hpieces.flatMap_fragmentValue fun c hc => hplain c (List.mem_of_mem_filter hc)
    rw [hvalue, Utf16.joinPairs_of_isScalar (isScalar_unquotedText hn hscalar)]

/-- A literal with an escape that is out of range, the halves of a character, a continued line and an
octal escape before a digit that is none. -/
def literalOfManyEscapes : Node :=
  literalAtStart "'a\\u\x7b110000\x7d\\uD83D\\uDE00\\\n\\18b'"

theorem unquotedText_eq_value_iff_manyEscapes :
    literalOfManyEscapes.IsQuoted ∧ literalOfManyEscapes.text.isScalar = true ∧
      ∃ v, literalOfManyEscapes.stringValue? = some v ∧ literalOfManyEscapes.unquotedText ≠ v ∧
        v.length < literalOfManyEscapes.unquotedText.length := by
  have hn : literalOfManyEscapes.IsQuoted :=
    isQuoted_literalAtStart (t := "'a\\u\x7b110000\x7d\\uD83D\\uDE00\\\n\\18b'") (by decide)
      (by decide)
  have hscalar : literalOfManyEscapes.text.isScalar = true := by decide
  have hescape : ∃ c ∈ literalOfManyEscapes.children, c.kind = .escapeSequence := by decide
  obtain ⟨v, hv, heq, hlt⟩ := unquotedText_eq_value_iff hn hscalar
  refine ⟨hn, hscalar, v, hv, ?_, hlt hescape⟩
  intro h
  obtain ⟨c, hc, hkind⟩ := hescape
  exact heq.1 h c hc hkind

end Node

end Script

end ComponentIndex
