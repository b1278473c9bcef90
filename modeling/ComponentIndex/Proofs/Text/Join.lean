/-
**Texts with a separator between them.**

Texts are joined with a separator between neighbours, and split again at a separator.  The parts are found
again if the separator is a single code point that occurs in none of them.

Main results:

* `ComponentIndex.Text.join_cons_cons` — the first separator of a joined text;
* `ComponentIndex.Text.forall_mem_join` — what holds of a joined text;
* `ComponentIndex.Text.splitOn_join` — **the parts are found again**.
-/

import ComponentIndex.Text.Basic

set_option relaxedAutoImplicit false
set_option autoImplicit false

namespace ComponentIndex.Text

theorem join_singleton (sep part : Text) : join sep [part] = part := List.intercalate_singleton

theorem join_cons_cons (sep part next : Text) (parts : List Text) :
    join sep (part :: next :: parts) = part ++ (sep ++ join sep (next :: parts)) :=
  List.intercalate_cons_cons.trans (List.append_assoc _ _ _)

/-- What holds of a separator holds of texts with the separator between them if it holds of each. -/
theorem forall_mem_join {p : CodePoint → Prop} {sep : Text} {parts : List Text}
    (hsep : ∀ c ∈ sep, p c) : (∀ c ∈ join sep parts, p c) ↔ ∀ part ∈ parts, ∀ c ∈ part, p c := by
  induction parts with
  | nil => simp [join]
  | cons part parts ih =>
      cases parts with
      | nil => simp [join_singleton]
      | cons next parts =>
          rw [join_cons_cons, List.forall_mem_append, List.forall_mem_append, ih,
            List.forall_mem_cons (a := part)]
          constructor
          · rintro ⟨hpart, -, hparts⟩
            exact ⟨hpart, hparts⟩
          · rintro ⟨hpart, hparts⟩
            exact ⟨hpart, hsep, hparts⟩

/-- A text is split as any other list is. -/
theorem splitOn_eq (sep : CodePoint) (t : Text) : splitOn sep t = List.splitOn sep t := by
  induction t with
  | nil => rw [splitOn, List.splitOn_nil]
  | cons c t ih =>
      rw [splitOn, ih, List.splitOn_cons_eq_if_modifyHead]
      obtain ⟨part, parts, hparts⟩ := List.exists_cons_of_ne_nil (List.splitOn_ne_nil sep t)
      simp only [hparts, List.modifyHead_cons, beq_iff_eq]

/-- Parts that do not hold the separator are found again after they have been joined. -/
theorem splitOn_join {sep : CodePoint} {parts : List Text} (hne : parts ≠ [])
    (hparts : ∀ p ∈ parts, sep ∉ p) : splitOn sep (join [sep] parts) = parts :=
  (splitOn_eq sep _).trans (List.splitOn_intercalate sep hparts hne)

end ComponentIndex.Text
