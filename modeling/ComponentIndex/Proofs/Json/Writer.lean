/-
**Records on one line.**

JSON keeps the code points of a text, but for the controls, which it spells with letters and digits.  So a
surrogate occurs in what is written exactly if one occurs in a text of the record, and no line end ever
does.

Main definitions:

* `ComponentIndex.CodePoint.IsAscii` — a code point that JSON may add to those of a text.

Main results:

* `ComponentIndex.Json.forall_mem_quoted`, `ComponentIndex.Json.forall_mem_write_table` — what holds of
  all that is written;
* `ComponentIndex.Occurrence.isScalar_write_record`, `ComponentIndex.StubLiteral.isScalar_write_record`,
  `ComponentIndex.LoopType.isScalar_write_record` — **the records that can be written**;
* `ComponentIndex.Occurrence.isOneLine_write_record` and its likes — they are written on one line.
-/

import ComponentIndex.Index.Record
import ComponentIndex.Json.Writer
import ComponentIndex.Proofs.Text.Order
import ComponentIndex.Proofs.Text.Scalar

set_option relaxedAutoImplicit false
set_option autoImplicit false

namespace ComponentIndex

/-- A printable character of ASCII. -/
def CodePoint.IsAscii (c : CodePoint) : Prop := 0x20 ≤ c.val ∧ c.val < 0x7F

instance (c : CodePoint) : Decidable c.IsAscii :=
  inferInstanceAs (Decidable (0x20 ≤ c.val ∧ c.val < 0x7F))

/-- No line end occurs in a text. -/
def Text.IsOneLine (t : Text) : Prop := ∀ c ∈ t, c.val ≠ 0x0A ∧ c.val ≠ 0x0D

namespace Json

/-! ### Texts -/

theorem isAscii_escaped_control :
    ∀ n (h : n < 0x20), ∀ d ∈ escaped ⟨n, Nat.lt_trans h (by decide)⟩, d.IsAscii := by
  decide +kernel

/-- A code point is written as it is, or else with printable characters of ASCII. -/
theorem mem_escaped {c d : CodePoint} (h : d ∈ escaped c) :
    d = c ∧ 0x20 ≤ c.val ∨ d.IsAscii := by
  rcases Nat.lt_or_ge c.val 0x20 with hcontrol | hprinted
  · exact Or.inr (isAscii_escaped_control c.val hcontrol d h)
  · rw [escaped, if_pos hprinted] at h
    split at h
    · rcases List.mem_cons.1 h with rfl | h
      · exact Or.inr (by decide)
      · exact Or.inl ⟨List.mem_singleton.1 h, hprinted⟩
    · exact Or.inl ⟨List.mem_singleton.1 h, hprinted⟩

theorem self_mem_escaped {c : CodePoint} (h : 0x20 ≤ c.val) : c ∈ escaped c := by
  rw [escaped, if_pos h]
  split
  · exact List.mem_cons_of_mem _ List.mem_cons_self
  · exact List.mem_cons_self

section

variable {p : CodePoint → Prop}

/-- What holds of printable ASCII holds of all that is written for a text if it holds of the code points
of the text, controls apart. -/
theorem forall_mem_quoted (hp : ∀ c, c.IsAscii → p c) {t : Text} :
    (∀ c ∈ quoted t, p c) ↔ ∀ c ∈ t, 0x20 ≤ c.val → p c := by
  have hquote : p '"' := hp _ (by decide)
  constructor
  · intro h c hc hprinted
    refine h c (List.mem_cons_of_mem _ (List.mem_append_left _ ?_))
    exact List.mem_flatMap.2 ⟨c, hc, self_mem_escaped hprinted⟩
  · intro h d hd
    rcases List.mem_cons.1 hd with rfl | hd
    · exact hquote
    rcases List.mem_append.1 hd with hd | hd
    · obtain ⟨c, hc, hd⟩ := List.mem_flatMap.1 hd
      rcases mem_escaped hd with ⟨rfl, hprinted⟩ | hd
      · exact h d hc hprinted
      · exact hp d hd
    · obtain rfl := List.mem_singleton.1 hd
      exact hquote

/-! ### Numbers and tables -/

theorem isAscii_of_isDigit {c : Char} (h : c.isDigit = true) : (CodePoint.ofChar c).IsAscii := by
  rw [Char.isDigit, Bool.and_eq_true, decide_eq_true_eq, decide_eq_true_eq] at h
  have hlo : 48 ≤ c.toNat := h.1
  have hhi : c.toNat ≤ 57 := h.2
  exact ⟨Nat.le_trans (by decide) hlo, Nat.lt_of_le_of_lt hhi (by decide)⟩

theorem forall_mem_write_nat (hp : ∀ c, c.IsAscii → p c) (n : Nat) :
    ∀ c ∈ write (.int n), p c := by
  have hdigits : toString (n : Int) = String.ofList (Nat.toDigits 10 n) := rfl
  rw [write, hdigits, Text.ofString, List.forall_mem_map, String.toList_ofList]
  intro c hc
  exact hp _ (isAscii_of_isDigit (Nat.isDigit_of_mem_toDigits (by decide) (by decide) hc))

theorem writeEntries_eq (entries : List (Text × Data)) :
    writeEntries entries =
      entries.map fun e => (e.1, quoted e.1 ++ ('\x3a' : CodePoint) :: write e.2) := by
  induction entries with
  | nil => rfl
  | cons e entries ih => rw [writeEntries, ih, List.map_cons]

/-- What holds of printable ASCII holds of all that is written for a table if it holds of what is written
for its keys and values. -/
theorem forall_mem_write_table (hp : ∀ c, c.IsAscii → p c) {entries : List (Text × Data)} :
    (∀ c ∈ write (.table entries), p c) ↔
      ∀ e ∈ entries, (∀ c ∈ quoted e.1, p c) ∧ ∀ c ∈ write e.2, p c := by
  have hmark : ∀ {c : CodePoint}, c.IsAscii → ∀ d ∈ [c], p d := fun hc =>
    List.forall_mem_singleton.2 (hp _ hc)
  have hcomma : ∀ c ∈ Text.ofString ",", p c := hmark (by decide)
  have hentries : (∀ part ∈ (sortBy (fun a b => a.1.less b.1) (writeEntries entries)).map Prod.snd,
      ∀ c ∈ part, p c) ↔ ∀ e ∈ entries, (∀ c ∈ quoted e.1, p c) ∧ ∀ c ∈ write e.2, p c := by
    rw [List.forall_mem_map]
    simp only [(sortBy_perm _).mem_iff, writeEntries_eq, List.forall_mem_map,
      List.forall_mem_append, List.forall_mem_cons, hp _ (by decide : CodePoint.IsAscii '\x3a'),
      true_and]
  rw [write, List.cons_append, List.forall_mem_cons, List.forall_mem_append,
    Text.forall_mem_join hcomma, hentries]
  constructor
  · rintro ⟨-, h, -⟩
    exact h
  · intro h
    exact ⟨hp _ (by decide), h, hmark (by decide)⟩

end

/-! ### Surrogates -/

theorem isSurrogate_of_isAscii (c : CodePoint) (h : c.IsAscii) : c.isSurrogate = false := by
  obtain ⟨-, h⟩ := h
  rw [← Bool.not_eq_true, CodePoint.isSurrogate_eq_true_iff]
  omega

theorem isScalar_quoted {t : Text} : (quoted t).isScalar = true ↔ t.isScalar = true := by
  rw [Text.isScalar_iff, Text.isScalar_iff, forall_mem_quoted isSurrogate_of_isAscii]
  refine forall₂_congr fun c _ => ⟨fun h => ?_, fun h _ => h⟩
  -- A surrogate is no control.
  by_contra hsurrogate
  have := CodePoint.isSurrogate_eq_true_iff.1 (Bool.not_eq_false _ ▸ hsurrogate)
  exact hsurrogate (h (by omega))

theorem isScalar_write_table {entries : List (Text × Data)} :
    (write (.table entries)).isScalar = true ↔
      ∀ e ∈ entries, e.1.isScalar = true ∧ (write e.2).isScalar = true := by
  simp only [Text.isScalar_iff, forall_mem_write_table isSurrogate_of_isAscii]
  simp only [← Text.isScalar_iff, isScalar_quoted]

@[simp] theorem isScalar_write_text {t : Text} :
    (write (.text t)).isScalar = true ↔ t.isScalar = true := by
  rw [write, isScalar_quoted]

@[simp] theorem isScalar_write_nat (n : Nat) : (write (.int n)).isScalar = true :=
  Text.isScalar_iff.2 (forall_mem_write_nat isSurrogate_of_isAscii n)

/-! ### Line ends -/

theorem isOneLine_of_isAscii (c : CodePoint) (h : c.IsAscii) : c.val ≠ 0x0A ∧ c.val ≠ 0x0D := by
  obtain ⟨h, -⟩ := h
  omega

theorem isOneLine_quoted (t : Text) : (quoted t).IsOneLine :=
  (forall_mem_quoted isOneLine_of_isAscii).2 fun c _ h => by omega

/-- A table of texts and numbers is written on one line. -/
theorem isOneLine_write_table {entries : List (Text × Data)}
    (h : ∀ e ∈ entries, (write e.2).IsOneLine) : (write (.table entries)).IsOneLine :=
  (forall_mem_write_table isOneLine_of_isAscii).2 fun e he => ⟨isOneLine_quoted e.1, h e he⟩

@[simp] theorem isOneLine_write_text (t : Text) : (write (.text t)).IsOneLine := by
  rw [write]
  exact isOneLine_quoted t

@[simp] theorem isOneLine_write_nat (n : Nat) : (write (.int n)).IsOneLine :=
  forall_mem_write_nat isOneLine_of_isAscii n

end Json

/-! ### Records -/

section

open Data (textEntry natEntry)

theorem Occurrence.isScalar_write_record (o : Occurrence) :
    (Json.write o.record).isScalar = true ↔
      o.path.isScalar = true ∧ o.index.isScalar = true ∧ o.name.isScalar = true := by
  simp [record, Json.isScalar_write_table, textEntry, natEntry, versionEntry,
    Text.isScalar_ofString]

theorem StubLiteral.isScalar_write_record (s : StubLiteral) :
    (Json.write s.record).isScalar = true ↔ s.path.isScalar = true ∧ s.text.isScalar = true := by
  simp [record, Json.isScalar_write_table, textEntry, natEntry, versionEntry,
    Text.isScalar_ofString]

theorem LoopType.isScalar_write_record (l : LoopType) :
    (Json.write l.record).isScalar = true ↔
      l.path.isScalar = true ∧ l.expression.isScalar = true ∧ l.variableName.isScalar = true ∧
        l.elementType.isScalar = true := by
  simp [record, Json.isScalar_write_table, textEntry, natEntry, versionEntry,
    Text.isScalar_ofString]

theorem Occurrence.isOneLine_write_record (o : Occurrence) : (Json.write o.record).IsOneLine :=
  Json.isOneLine_write_table (by simp [textEntry, natEntry, versionEntry])

theorem StubLiteral.isOneLine_write_record (s : StubLiteral) : (Json.write s.record).IsOneLine :=
  Json.isOneLine_write_table (by simp [textEntry, natEntry, versionEntry])

theorem LoopType.isOneLine_write_record (l : LoopType) : (Json.write l.record).IsOneLine :=
  Json.isOneLine_write_table (by simp [textEntry, natEntry, versionEntry])

end

end ComponentIndex
