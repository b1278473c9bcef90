/-
**The conditions on a source file.**

A rule that cannot be read fails when it is asked; nothing else about a path fails.  A file is ignored
if one of the rules files that count ignores it.  Those are the rules file of the root, and in a
nested search the ones of all directories that are entered.

Main definitions:

* `ComponentIndex.Ignore.Matcher.IsReadable` — all rules of a file can be read;
* `ComponentIndex.Project.Considers` — a rules file counts;
* `ComponentIndex.Project.HasReadableRules` — all rules files that count can be read.

Main results:

* `ComponentIndex.Ignore.Matcher.someIgnores_eq_false_iff` — a file that no rules file ignores;
* `ComponentIndex.Project.Filter.accepts_eq_true_iff` — **a file that meets the conditions**;
* `ComponentIndex.Project.mem_matchers_iff` — the rules files whose rules are asked.
-/

import ComponentIndex.Proofs.Project.Walk

set_option relaxedAutoImplicit false
set_option autoImplicit false

namespace ComponentIndex

/-! ### Rules -/

namespace Ignore.Matcher

variable {path : List Text} {rules : List Rule} {m : Matcher} {ms : List Matcher}

/-- All rules of a file can be read. -/
def IsReadable (m : Matcher) : Prop := ∀ r ∈ m.rules, r.isReadable = true

theorem eq_malformedPattern_of_firstAccepting {t : Text} {e : Failure}
    (h : firstAccepting t rules = .error e) : e = .malformedPattern := by
  induction rules with
  | nil => cases h
  | cons r rules ih =>
      rw [firstAccepting] at h
      split at h
      · exact (Except.error.inj h).symm
      · split at h
        · cases h
        · exact ih h

theorem exists_firstAccepting {t : Text} (h : ∀ r ∈ rules, r.isReadable = true) :
    ∃ found, firstAccepting t rules = .ok found := by
  induction rules with
  | nil => exact ⟨none, rfl⟩
  | cons r rules ih =>
      rw [List.forall_mem_cons] at h
      rw [firstAccepting, h.1]
      by_cases haccepts : r.accepts t = true
      · exact ⟨some r, by simp [haccepts]⟩
      · obtain ⟨found, hfound⟩ := ih h.2
        exact ⟨found, by simp [haccepts, hfound]⟩

theorem eq_malformedPattern_of_ignores {e : Failure} (h : m.ignores path = .error e) :
    e = .malformedPattern := by
  rw [ignores] at h
  split at h
  · rcases bind_eq_error_iff.1 h with h | ⟨_, -, h⟩
    · exact eq_malformedPattern_of_firstAccepting h
    · cases h
  · cases h

theorem IsReadable.exists_ignores (h : m.IsReadable) (path : List Text) :
    ∃ answer, m.ignores path = .ok answer := by
  have hasked : ∀ r ∈ m.asked, r.isReadable = true := by
    intro r hr
    rw [asked] at hr
    split at hr
    · exact h r (List.mem_reverse.1 hr)
    · exact h r hr
  rw [ignores]
  split
  · obtain ⟨found, hfound⟩ :=
      exists_firstAccepting (t := Text.join [slash] (path.drop m.base.length)) hasked
    rw [hfound]
    exact ⟨_, rfl⟩
  · exact ⟨false, rfl⟩

theorem someIgnores_cons (path : List Text) (m : Matcher) (ms : List Matcher) :
    someIgnores path (m :: ms) =
      m.ignores path >>= fun answer => if answer then .ok true else someIgnores path ms := by
  rw [someIgnores]
  rfl

theorem eq_malformedPattern_of_someIgnores {e : Failure} (h : someIgnores path ms = .error e) :
    e = .malformedPattern := by
  induction ms with
  | nil => cases h
  | cons m ms ih =>
      rw [someIgnores_cons] at h
      rcases bind_eq_error_iff.1 h with h | ⟨answer, -, h⟩
      · exact eq_malformedPattern_of_ignores h
      · cases answer with
        | false => exact ih h
        | true => cases h

theorem exists_someIgnores (h : ∀ m ∈ ms, ∃ answer, m.ignores path = .ok answer) :
    ∃ answer, someIgnores path ms = .ok answer := by
  induction ms with
  | nil => exact ⟨false, rfl⟩
  | cons m ms ih =>
      rw [List.forall_mem_cons] at h
      obtain ⟨answer, hm⟩ := h.1
      rw [someIgnores_cons, hm]
      cases answer with
      | false => exact ih h.2
      | true => exact ⟨true, rfl⟩

/-- No rules file ignores a file if each of them says so. -/
theorem someIgnores_eq_false_iff :
    someIgnores path ms = .ok false ↔ ∀ m ∈ ms, m.ignores path = .ok false := by
  induction ms with
  | nil =>
      constructor
      · intro _ m hm
        cases hm
      · intro _
        rfl
  | cons m ms ih =>
      rw [someIgnores_cons, bind_eq_ok_iff, List.forall_mem_cons]
      constructor
      · rintro ⟨answer, hm, h⟩
        cases answer with
        | false => exact ⟨hm, ih.1 h⟩
        | true => cases h
      · rintro ⟨hm, hms⟩
        exact ⟨false, hm, ih.2 hms⟩

end Ignore.Matcher

namespace Project

/-! ### The filter of a search -/

namespace Filter

variable {f : Filter} {path : Path}

theorem accepts_of_not_allowsName (h : f.allowsName path = false) :
    f.accepts path = .ok false := by
  rw [accepts, h]
  rfl

theorem accepts_of_allowsName (h : f.allowsName path = true) :
    f.accepts path = Ignore.Matcher.someIgnores path f.matchers >>= fun answer =>
      if answer then .ok false else .ok (f.allowsPath path) := by
  rw [accepts, h]
  rfl

/-- The conditions fail where the rules do, if the name is allowed. -/
theorem accepts_eq_error_iff {e : Failure} :
    f.accepts path = .error e ↔
      f.allowsName path = true ∧ Ignore.Matcher.someIgnores path f.matchers = .error e := by
  cases hname : f.allowsName path with
  | false =>
      rw [accepts_of_not_allowsName hname]
      simp
  | true =>
      rw [accepts_of_allowsName hname, bind_eq_error_iff]
      constructor
      · rintro (h | ⟨answer, -, h⟩)
        · exact ⟨rfl, h⟩
        · cases answer with
          | false => cases h
          | true => cases h
      · rintro ⟨-, h⟩
        exact Or.inl h

theorem eq_malformedPattern_of_accepts {e : Failure} (h : f.accepts path = .error e) :
    e = .malformedPattern :=
  Ignore.Matcher.eq_malformedPattern_of_someIgnores (accepts_eq_error_iff.1 h).2

theorem exists_accepts (h : ∀ m ∈ f.matchers, m.IsReadable) (path : Path) :
    ∃ answer, f.accepts path = .ok answer := by
  cases hname : f.allowsName path with
  | false => exact ⟨false, accepts_of_not_allowsName hname⟩
  | true =>
      obtain ⟨answer, hanswer⟩ :=
        Ignore.Matcher.exists_someIgnores fun m hm => (h m hm).exists_ignores path
      rw [accepts_of_allowsName hname, hanswer]
      cases answer with
      | false => exact ⟨_, rfl⟩
      | true => exact ⟨_, rfl⟩

/-- **A file meets the conditions** if its name and its path are allowed and no rules file ignores
it. -/
theorem accepts_eq_true_iff :
    f.accepts path = .ok true ↔
      f.allowsName path = true ∧ (∀ m ∈ f.matchers, m.ignores path = .ok false) ∧
        f.allowsPath path = true := by
  cases hname : f.allowsName path with
  | false =>
      rw [accepts_of_not_allowsName hname]
      simp
  | true =>
      rw [accepts_of_allowsName hname, bind_eq_ok_iff, ← Ignore.Matcher.someIgnores_eq_false_iff]
      constructor
      · rintro ⟨answer, hanswer, h⟩
        cases answer with
        | false => exact ⟨rfl, hanswer, Except.ok.inj h⟩
        | true => cases h
      · rintro ⟨-, hanswer, hallows⟩
        exact ⟨false, hanswer, congrArg Except.ok hallows⟩

theorem allowsName_iff :
    f.allowsName path = true ↔
      (extensionOf path).lower ∈ f.extensions ∧ passesSkipped path = false := by
  rw [allowsName, Bool.and_eq_true, List.contains_iff_mem, Bool.not_eq_true']

theorem allowsPath_iff :
    f.allowsPath path = true ↔
      (f.includes = [] ∨ ∃ pattern ∈ f.includes, Glob.accepts pattern path.toText = true) ∧
        ∀ pattern ∈ f.excludes, Glob.accepts pattern path.toText = false := by
  simp [allowsPath]

end Filter

theorem passesSkipped_eq_false_iff {path : Path} :
    passesSkipped path = false ↔ ∀ name ∈ path.dropLast, name ∉ Entry.skippedDirectories := by
  simp [passesSkipped]

/-! ### The rules files that count -/

/-- The file at a path is a rules file that counts: it lies at the root or, in a nested search, in
any directory that is entered. -/
structure Considers (nested : Bool) (root : Entry) (path : Path) (bytes : List UInt8) : Prop where
  /-- The file is there, and not by a link. -/
  isFile : root.at? path = some (.file bytes)
  /-- It has the name of rules files. -/
  named : path.getLast? = some rulesFile
  /-- The directories on the way to it are entered. -/
  entered : ∀ name ∈ path.dropLast, name ∉ Entry.skippedDirectories
  /-- It lies at the root, unless the search is nested. -/
  placed : nested = true ∨ path.length = 1

/-- All rules files that count can be read. -/
def HasReadableRules (nested : Bool) (root : Entry) : Prop :=
  ∀ path bytes, Considers nested root path bytes →
    ∃ m, Ignore.Matcher.ofBytes path.dropLast bytes = .ok m ∧ m.IsReadable

section

variable {nested : Bool} {root : Entry}

theorem mem_rulesFiles_iff (h : root.IsWellNamed) {path : Path} {bytes : List UInt8} :
    (path, bytes) ∈ rulesFiles nested root ↔ Considers nested root path bytes := by
  rw [rulesFiles, byPath, (sortBy_perm _).mem_iff, List.mem_filter, Entry.mem_sourceFiles_iff h,
    passesSkipped_eq_false_iff]
  simp only [Bool.and_eq_true, Bool.or_eq_true, decide_eq_true_eq]
  constructor
  · rintro ⟨⟨-, hat, hentered⟩, hnamed, hplaced⟩
    exact ⟨hat, hnamed, hentered, hplaced⟩
  · rintro ⟨hat, hnamed, hentered, hplaced⟩
    have hne : path ≠ [] := by
      rintro rfl
      cases hnamed
    exact ⟨⟨hne, hat, hentered⟩, hnamed, hplaced⟩

/-- The rules that are asked are those of the rules files that count. -/
theorem mem_matchers_iff (h : root.IsWellNamed) {ms : List Ignore.Matcher}
    (hms : matchers nested root = .ok ms) {m : Ignore.Matcher} :
    m ∈ ms ↔ ∃ path bytes, Considers nested root path bytes ∧
      Ignore.Matcher.ofBytes path.dropLast bytes = .ok m := by
  rw [mem_of_mapM hms]
  constructor
  · rintro ⟨⟨path, bytes⟩, hmem, hm⟩
    exact ⟨path, bytes, (mem_rulesFiles_iff h).1 hmem, hm⟩
  · rintro ⟨path, bytes, hconsiders, hm⟩
    exact ⟨(path, bytes), (mem_rulesFiles_iff h).2 hconsiders, hm⟩

theorem HasReadableRules.exists_matchers (hrules : HasReadableRules nested root)
    (h : root.IsWellNamed) :
    ∃ ms, matchers nested root = .ok ms ∧ ∀ m ∈ ms, m.IsReadable := by
  obtain ⟨ms, hms⟩ : ∃ ms, matchers nested root = .ok ms := by
    refine exists_mapM_eq_ok ?_
    rintro ⟨path, bytes⟩ hmem
    obtain ⟨m, hm, -⟩ := hrules path bytes ((mem_rulesFiles_iff h).1 hmem)
    exact ⟨m, hm⟩
  refine ⟨ms, hms, fun m hm => ?_⟩
  obtain ⟨path, bytes, hconsiders, hm⟩ := (mem_matchers_iff h hms).1 hm
  obtain ⟨m', hm', hreadable⟩ := hrules path bytes hconsiders
  rw [hm] at hm'
  obtain rfl := Except.ok.inj hm'
  exact hreadable

/-- The rules of a file can be read. -/
def isReadableFile (x : Path × List UInt8) : Bool :=
  match Ignore.Matcher.ofBytes x.1.dropLast x.2 with
  | .ok m => m.rules.all Ignore.Rule.isReadable
  | .error _ => false

theorem hasReadableRules_of_all (h : root.IsWellNamed)
    (hread : (rulesFiles nested root).all isReadableFile = true) :
    HasReadableRules nested root := by
  intro path bytes hconsiders
  have hfile := List.all_eq_true.1 hread _ ((mem_rulesFiles_iff h).2 hconsiders)
  rw [isReadableFile] at hfile
  split at hfile
  next m hm => exact ⟨m, hm, List.all_eq_true.1 hfile⟩
  · cases hfile

end

end Project

end ComponentIndex
