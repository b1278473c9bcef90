/-
**Alias lists.**

An alias list is cut at the commas that stand where no bracket is open.  A bracket that closes none of
the open ones is an ordinary character, and a bracket that is never closed keeps all that follows in one
part, so that every text has its aliases, however its brackets stand.

Main definitions:

* `ComponentIndex.Loop.closersAtEnd`, `ComponentIndex.Loop.IsClosed` — the brackets that are open at the
  end of a text;
* `ComponentIndex.Loop.HasSeparator` — a comma stands outside of brackets;
* `ComponentIndex.Loop.IsSeparating` — a text of commas and blanks.

Main results:

* `ComponentIndex.Loop.splitAliases_append` — lists with a comma between them;
* `ComponentIndex.Loop.splitAliases_of_not_hasSeparator` — a list that is not cut;
* `ComponentIndex.Loop.splitAliases_join` — the aliases of a list are those of its own spelling;
* `ComponentIndex.Loop.splitAliases_laws` — **the laws of alias lists**;
* `ComponentIndex.Loop.splitAliases_eq_nil_iff`, `ComponentIndex.Loop.splitAliases_eq_self_iff` — lists
  without an alias and lists of one.
-/

import ComponentIndex.Loop.Expression
import ComponentIndex.Proofs.Text.Blank
import ComponentIndex.Proofs.Text.Join

set_option relaxedAutoImplicit false
set_option autoImplicit false

namespace ComponentIndex.Loop

/-! ### Open brackets -/

/-- The closers of the open brackets behind a code point, innermost first: a bracket that opens adds its
closer, the innermost closer takes itself off, and any other code point changes nothing. -/
def closersBehind (closers : List CodePoint) (c : CodePoint) : List CodePoint :=
  match closerOf? c with
  | some closer => closer :: closers
  | none => if closers.head? = some c then closers.tail else closers

/-- The closers of the brackets that are open at the end of a text, given those before it. -/
def closersAtEnd (closers : List CodePoint) (t : Text) : List CodePoint :=
  t.foldl closersBehind closers

/-- No bracket is open at the end of a text. -/
def IsClosed (t : Text) : Prop := closersAtEnd [] t = []

/-- A comma of the text stands where no bracket is open. -/
def HasSeparator (t : Text) : Prop := ∃ a b, t = a ++ (',' : CodePoint) :: b ∧ IsClosed a

/-- A text of commas and blanks. -/
def IsSeparating (t : Text) : Prop := ∀ c ∈ t, c = (',' : CodePoint) ∨ c.isBlank = true

instance (t : Text) : Decidable (IsClosed t) := inferInstanceAs (Decidable (_ = _))

instance (t : Text) : Decidable (IsSeparating t) := inferInstanceAs (Decidable (∀ c ∈ t, _))

theorem hasSeparator_iff_exists_lt {t : Text} :
    HasSeparator t ↔
      ∃ i, i < t.length ∧ t[i]? = some (',' : CodePoint) ∧ IsClosed (t.take i) := by
  constructor
  · rintro ⟨a, b, rfl, ha⟩
    exact ⟨a.length, by simp, by simp, by simpa using ha⟩
  · rintro ⟨i, hi, hcomma, ha⟩
    rw [List.getElem?_eq_getElem hi, Option.some.injEq] at hcomma
    refine ⟨t.take i, t.drop (i + 1), ?_, ha⟩
    rw [← hcomma, ← List.drop_eq_getElem_cons hi, List.take_append_drop]

instance (t : Text) : Decidable (HasSeparator t) := decidable_of_iff' _ hasSeparator_iff_exists_lt

theorem closersAtEnd_append (closers : List CodePoint) (a b : Text) :
    closersAtEnd closers (a ++ b) = closersAtEnd (closersAtEnd closers a) b :=
  List.foldl_append

/-- Brackets are no blanks. -/
theorem not_isBlank_of_closerOf? {c closer : CodePoint} (h : closerOf? c = some closer) :
    c.isBlank = false ∧ closer.isBlank = false := by
  rw [closerOf?] at h
  split at h
  next hc =>
    subst hc
    obtain rfl := Option.some.inj h
    decide
  split at h
  next hc =>
    subst hc
    obtain rfl := Option.some.inj h
    decide
  split at h
  next hc =>
    subst hc
    obtain rfl := Option.some.inj h
    decide
  · cases h

/-- The closers behind a code point are old ones and the one that the code point asks for. -/
theorem mem_of_mem_closersBehind {closers : List CodePoint} {c closer : CodePoint}
    (h : closer ∈ closersBehind closers c) : closer ∈ closers ∨ closerOf? c = some closer := by
  rw [closersBehind] at h
  split at h
  next opened hopened =>
    rcases List.mem_cons.1 h with rfl | h
    · exact Or.inr hopened
    · exact Or.inl h
  next =>
    split at h
    · exact Or.inl (List.mem_of_mem_tail h)
    · exact Or.inl h

/-- No blank is expected as a closer. -/
theorem not_isBlank_of_mem_closersAtEnd {closers : List CodePoint} (t : Text)
    (hclosers : ∀ c ∈ closers, c.isBlank = false) :
    ∀ c ∈ closersAtEnd closers t, c.isBlank = false := by
  induction t generalizing closers with
  | nil => exact hclosers
  | cons d t ih =>
      refine ih fun c hc => ?_
      rcases mem_of_mem_closersBehind hc with hc | hc
      · exact hclosers c hc
      · exact (not_isBlank_of_closerOf? hc).2

theorem closersBehind_of_isBlank {closers : List CodePoint} {c : CodePoint}
    (hclosers : ∀ d ∈ closers, d.isBlank = false) (hc : c.isBlank = true) :
    closersBehind closers c = closers := by
  have hopens : closerOf? c = none := by
    rw [Option.eq_none_iff_forall_ne_some]
    intro closer hcloser
    rw [(not_isBlank_of_closerOf? hcloser).1] at hc
    cases hc
  have hcloses : closers.head? ≠ some c := by
    intro hhead
    rw [hclosers c (List.mem_of_head? hhead)] at hc
    cases hc
  rw [closersBehind, hopens]
  exact if_neg hcloses

/-- Blanks open and close nothing. -/
theorem closersAtEnd_of_isBlank {closers : List CodePoint} {w : Text}
    (hclosers : ∀ d ∈ closers, d.isBlank = false) (hw : w.IsBlank) :
    closersAtEnd closers w = closers := by
  induction w with
  | nil => rfl
  | cons c w ih =>
      obtain ⟨hc, hw⟩ := List.forall_mem_cons.1 hw
      rw [closersAtEnd, List.foldl_cons, closersBehind_of_isBlank hclosers hc]
      exact ih hw

theorem closersBehind_comma : closersBehind [] ',' = [] := by decide

/-- Commas and blanks open nothing. -/
theorem IsSeparating.isClosed {t : Text} (h : IsSeparating t) : IsClosed t := by
  induction t with
  | nil => rfl
  | cons c t ih =>
      obtain ⟨hc, ht⟩ := List.forall_mem_cons.1 h
      have hbehind : closersBehind [] c = [] := by
        rcases hc with rfl | hc
        · exact closersBehind_comma
        · exact closersBehind_of_isBlank (List.forall_mem_nil _) hc
      rw [IsClosed, closersAtEnd, List.foldl_cons, hbehind]
      exact ih ht

/-- A strip takes off nothing that opens or closes a bracket. -/
theorem isClosed_strip_iff {t : Text} : IsClosed t.strip ↔ IsClosed t := by
  obtain ⟨w, w', hw, hw', ht⟩ := t.exists_eq_append_strip
  have hstart : closersAtEnd [] w = [] := closersAtEnd_of_isBlank (List.forall_mem_nil _) hw
  have hend : closersAtEnd [] t = closersAtEnd [] t.strip := by
    rw [ht, closersAtEnd_append, hstart, closersAtEnd_append, ← ht,
      closersAtEnd_of_isBlank (not_isBlank_of_mem_closersAtEnd _ (List.forall_mem_nil _)) hw']
  rw [IsClosed, IsClosed, hend]

theorem hasSeparator_of_strip {t : Text} (h : HasSeparator t.strip) : HasSeparator t := by
  obtain ⟨a, b, hab, ha⟩ := h
  obtain ⟨w, w', hw, -, ht⟩ := t.exists_eq_append_strip
  refine ⟨w ++ a, b ++ w', ?_, ?_⟩
  · rw [hab] at ht
    simp [ht]
  · rw [IsClosed, closersAtEnd_append, closersAtEnd_of_isBlank (List.forall_mem_nil _) hw]
    exact ha

/-! ### Cuts -/

/-- A list is cut at a comma outside of brackets, and at nothing else. -/
theorem splitParts_cons (closers : List CodePoint) (current : Text) (c : CodePoint) (t : Text) :
    splitParts closers current (c :: t) =
      if c = (',' : CodePoint) ∧ closers = [] then current.reverse :: splitParts [] [] t
      else splitParts (closersBehind closers c) (c :: current) t := by
  cases hopens : closerOf? c with
  | some closer =>
      have hcut : ¬(c = (',' : CodePoint) ∧ closers = []) := by
        rintro ⟨rfl, -⟩
        cases hopens
      rw [splitParts, closersBehind, hopens, if_neg hcut]
  | none =>
      rw [splitParts, closersBehind, hopens]
      dsimp only
      by_cases hcloses : closers.head? = some c
      · have hcut : ¬(c = (',' : CodePoint) ∧ closers = []) := by
          rintro ⟨-, rfl⟩
          cases hcloses
        rw [if_pos hcloses, if_neg hcut, if_pos hcloses]
      · rw [if_neg hcloses, if_neg hcloses]
        by_cases hcut : c = (',' : CodePoint) ∧ closers = []
        · obtain ⟨rfl, rfl⟩ := hcut
          rfl
        · rw [if_neg hcut, if_neg]
          simpa using hcut

/-- Where no bracket is open, a comma ends the parts before it and begins those behind it. -/
theorem splitParts_append {closers : List CodePoint} {a : Text} (ha : closersAtEnd closers a = [])
    (current b : Text) :
    splitParts closers current (a ++ (',' : CodePoint) :: b) =
      splitParts closers current a ++ splitParts [] [] b := by
  induction a generalizing closers current with
  | nil =>
      obtain rfl : closers = [] := ha
      rw [List.nil_append, splitParts_cons, if_pos ⟨rfl, rfl⟩]
      rfl
  | cons c a ih =>
      rw [List.cons_append, splitParts_cons, splitParts_cons]
      split
      next hcut =>
        obtain ⟨rfl, rfl⟩ := hcut
        rw [ih (closersBehind_comma ▸ ha), List.cons_append]
      next => exact ih ha _

/-- Without a comma outside of brackets a text is one part. -/
theorem splitParts_of_not_cut {closers : List CodePoint} {t : Text}
    (h : ∀ a b, t = a ++ (',' : CodePoint) :: b → closersAtEnd closers a ≠ []) (current : Text) :
    splitParts closers current t = [current.reverse ++ t] := by
  induction t generalizing closers current with
  | nil => rw [splitParts, List.append_nil]
  | cons c t ih =>
      have hcut : ¬(c = (',' : CodePoint) ∧ closers = []) := by
        rintro ⟨rfl, hclosers⟩
        exact h [] t rfl hclosers
      rw [splitParts_cons, if_neg hcut, ih, List.reverse_cons, List.append_assoc]
      · rfl
      · rintro a b rfl
        exact h (c :: a) b rfl

/-! ### The laws of alias lists -/

/-- **The aliases of two lists with a comma between them** are those of the one and those of the other,
if no bracket is open at the comma. -/
theorem splitAliases_append {a : Text} (ha : IsClosed a) (b : Text) :
    splitAliases (a ++ (',' : CodePoint) :: b) = splitAliases a ++ splitAliases b := by
  rw [splitAliases, splitParts_append ha, List.map_append, List.filter_append]
  rfl

/-- A list without a comma outside of brackets has itself as its alias, unless it is blank. -/
theorem splitAliases_of_not_hasSeparator {t : Text} (h : ¬HasSeparator t) :
    splitAliases t = if t.strip = [] then [] else [t.strip] := by
  have hparts : splitParts [] [] t = [t] :=
    splitParts_of_not_cut (fun a b ht ha => h ⟨a, b, ht, ha⟩) []
  rw [splitAliases, hparts, List.map_singleton, List.filter_cons, List.filter_nil]
  by_cases hnil : t.strip = [] <;> simp [hnil]

/-- A list with a comma outside of brackets has a first one. -/
theorem HasSeparator.exists_first {t : Text} (h : HasSeparator t) :
    ∃ a b, t = a ++ (',' : CodePoint) :: b ∧ IsClosed a ∧ ¬HasSeparator a := by
  obtain ⟨a, b, ht, ha⟩ := h
  induction hn : a.length using Nat.strong_induction_on generalizing a b with
  | h n ih =>
      by_cases hsep : HasSeparator a
      · obtain ⟨a', b', rfl, ha'⟩ := hsep
        refine ih a'.length ?_ a' (b' ++ (',' : CodePoint) :: b) ?_ ha' rfl
        · rw [← hn, List.length_append, List.length_cons]
          omega
        · rw [ht, List.append_assoc, List.cons_append]
      · exact ⟨a, b, ht, ha, hsep⟩

/-- What holds of a list that is not cut, and of a list that is cut for the first time if it holds of
what follows the cut, holds of every list. -/
theorem aliasListInduction {motive : Text → Prop} (single : ∀ t, ¬HasSeparator t → motive t)
    (cut : ∀ a b, IsClosed a → ¬HasSeparator a → motive b → motive (a ++ (',' : CodePoint) :: b))
    (t : Text) : motive t := by
  induction hn : t.length using Nat.strong_induction_on generalizing t with
  | h n ih =>
      by_cases hsep : HasSeparator t
      · obtain ⟨a, b, rfl, ha, hfirst⟩ := hsep.exists_first
        refine cut a b ha hfirst (ih b.length ?_ b rfl)
        rw [← hn, List.length_append, List.length_cons]
        omega
      · exact single t hsep

/-- Each alias is a stripped part of the list and is not empty. -/
theorem isTrimmed_of_mem_splitAliases {t part : Text} (h : part ∈ splitAliases t) :
    part ≠ [] ∧ part.IsTrimmed := by
  obtain ⟨hpart, hne⟩ := List.mem_filter.1 h
  obtain ⟨raw, -, rfl⟩ := List.mem_map.1 hpart
  exact ⟨by simpa using hne, raw.isTrimmed_strip⟩

/-- The aliases of a list, written with commas between them, are read back. -/
theorem splitAliases_join (t : Text) :
    splitAliases (Text.join "," (splitAliases t)) = splitAliases t := by
  -- The first part has no bracket open at its end, so that its comma cuts again; where the last part
  -- ends does not matter.
  induction t using aliasListInduction with
  | single t ht =>
      rw [splitAliases_of_not_hasSeparator ht]
      split
      · rfl
      next hne =>
        rw [Text.join_singleton, splitAliases_of_not_hasSeparator (mt hasSeparator_of_strip ht),
          Text.strip_strip, if_neg hne]
  | cut a b ha hfirst ih =>
      rw [splitAliases_append ha, splitAliases_of_not_hasSeparator hfirst]
      split
      · exact ih
      next hne =>
        have hself : splitAliases a.strip = [a.strip] := by
          rw [splitAliases_of_not_hasSeparator (mt hasSeparator_of_strip hfirst),
            Text.strip_strip, if_neg hne]
        cases hb : splitAliases b with
        | nil => rw [List.append_nil, Text.join_singleton, hself]
        | cons part parts =>
            rw [List.singleton_append, Text.join_cons_cons, ← hb]
            change splitAliases (a.strip ++ (',' : CodePoint) :: Text.join "," (splitAliases b)) = _
            rw [splitAliases_append (isClosed_strip_iff.2 ha), hself, ih, List.singleton_append]

/-- **The laws of alias lists**, for every text: a comma where no bracket is open stands between two
lists; a text without one is its own alias; aliases are stripped and not empty; and their list is read
back. -/
theorem splitAliases_laws :
    (∀ a b : Text, IsClosed a →
      splitAliases (a ++ (',' : CodePoint) :: b) = splitAliases a ++ splitAliases b) ∧
    (∀ t : Text, ¬HasSeparator t → splitAliases t = if t.strip = [] then [] else [t.strip]) ∧
    (∀ t part : Text, part ∈ splitAliases t → part ≠ [] ∧ part.IsTrimmed) ∧
    ∀ t : Text, splitAliases (Text.join "," (splitAliases t)) = splitAliases t :=
  ⟨fun _ b ha => splitAliases_append ha b, fun _ ht => splitAliases_of_not_hasSeparator ht,
    fun _ _ hpart => isTrimmed_of_mem_splitAliases hpart, splitAliases_join⟩

/-- A bracket that closes nothing is passed, and one that is not closed keeps its comma. -/
theorem splitAliases_laws_mismatched :
    IsClosed "(a], b)" ∧ ¬HasSeparator " [d, e" ∧
      splitAliases ("(a], b)" ++ (',' : CodePoint) :: " [d, e") =
        ([("(a], b)" : Text), ("[d, e" : Text)] : List Text) ∧
      splitAliases "(a], b),[d, e" = ([("(a], b)" : Text), ("[d, e" : Text)] : List Text) := by
  obtain ⟨happend, hsingle, -, hjoin⟩ := splitAliases_laws
  have hclosed : IsClosed "(a], b)" := by decide
  have hleft : splitAliases "(a], b)" = [("(a], b)" : Text)] := hsingle _ (by decide)
  have hright : splitAliases " [d, e" = [("[d, e" : Text)] := hsingle _ (by decide)
  have hboth : splitAliases ("(a], b)" ++ (',' : CodePoint) :: " [d, e") =
      [("(a], b)" : Text), ("[d, e" : Text)] := by
    rw [happend _ _ hclosed, hleft, hright]
    rfl
  refine ⟨hclosed, by decide, hboth, ?_⟩
  have hagain := hjoin ("(a], b)" ++ (',' : CodePoint) :: " [d, e")
  rwa [hboth] at hagain

/-! ### Lists of no alias and of one -/

/-- A list has no alias exactly if it is made of commas and blanks. -/
theorem splitAliases_eq_nil_iff {t : Text} : splitAliases t = [] ↔ IsSeparating t := by
  have hsingle : ∀ t, ¬HasSeparator t → (splitAliases t = [] ↔ IsSeparating t) := by
    intro t ht
    rw [splitAliases_of_not_hasSeparator ht]
    constructor
    · intro hnil c hc
      split at hnil
      next hstrip => exact Or.inr (Text.strip_eq_nil_iff.1 hstrip c hc)
      next => cases hnil
    · intro hsep
      have hblank : t.IsBlank := by
        intro c hc
        refine (hsep c hc).resolve_left ?_
        rintro rfl
        obtain ⟨a, b, rfl⟩ := List.append_of_mem hc
        have ha : IsSeparating a := (List.forall_mem_append.1 hsep).1
        exact ht ⟨a, b, rfl, ha.isClosed⟩
      rw [if_pos (Text.strip_eq_nil_iff.2 hblank)]
  induction t using aliasListInduction with
  | single t ht => exact hsingle t ht
  | cut a b ha hfirst ih =>
      rw [splitAliases_append ha, List.append_eq_nil_iff, hsingle a hfirst, show _ ↔ _ from ih]
      simp only [IsSeparating, List.forall_mem_append, List.forall_mem_cons, true_or, true_and]

/-- An alias is a part of its list. -/
theorem infix_of_mem_splitAliases {t part : Text} (h : part ∈ splitAliases t) : part <:+: t := by
  have hsingle : ∀ t, ¬HasSeparator t → ∀ part ∈ splitAliases t, part <:+: t := by
    intro t ht part hpart
    rw [splitAliases_of_not_hasSeparator ht] at hpart
    split at hpart
    · cases hpart
    · obtain rfl := List.mem_singleton.1 hpart
      exact t.strip_infix
  induction t using aliasListInduction with
  | single t ht => exact hsingle t ht part h
  | cut a b ha hfirst ih =>
      rw [splitAliases_append ha] at h
      rcases List.mem_append.1 h with h | h
      · exact (hsingle a hfirst part h).trans (List.prefix_append _ _).isInfix
      · exact (ih h).trans ((List.suffix_cons _ _).trans (List.suffix_append _ _)).isInfix

/-- A list that is its own alias is not cut. -/
theorem not_hasSeparator_of_mem_splitAliases {t : Text} (h : t ∈ splitAliases t) :
    ¬HasSeparator t := by
  rintro ⟨a, b, ht, ha⟩
  have hlength := congrArg List.length ht
  rw [List.length_append, List.length_cons] at hlength
  have hmem : t ∈ splitAliases a ++ splitAliases b := by
    rw [← splitAliases_append ha, ← ht]
    exact h
  rcases List.mem_append.1 hmem with hmem | hmem
  · have := (infix_of_mem_splitAliases hmem).length_le
    omega
  · have := (infix_of_mem_splitAliases hmem).length_le
    omega

/-- A stripped list that is not empty is its only alias exactly if it is not cut. -/
theorem splitAliases_eq_self_iff {t : Text} (ht : t.IsTrimmed) (hne : t ≠ []) :
    splitAliases t = [t] ↔ ¬HasSeparator t := by
  constructor
  · intro hself
    exact not_hasSeparator_of_mem_splitAliases (hself ▸ List.mem_singleton_self t)
  · intro hsep
    rw [splitAliases_of_not_hasSeparator hsep, ht.strip_eq, if_neg hne]

end ComponentIndex.Loop
