/-
**When a search completes.**

A search in which the rules of the root are all that count completes exactly if these can be made out and
answer for each file whose extension is sought.  Nothing else about a project makes a search fail.

Main definitions:

* `ComponentIndex.Project.Search.Tests` — a search puts the rules to a file;
* `ComponentIndex.Project.Search.RulesAnswer` — the rules of the root can be made out, and answer.

Main results:

* `ComponentIndex.Project.Search.exists_run_iff` — **when a search completes**;
* `ComponentIndex.Project.Search.ne_unwritable_of_run` — no search fails for a record.
-/

import ComponentIndex.Proofs.Project.Detection

set_option relaxedAutoImplicit false
set_option autoImplicit false

namespace ComponentIndex

/-! ### The rules of the root -/

namespace Ignore.Matcher

theorem someIgnores_eq_error {path : List Text} {ms : List Matcher} {e : Failure} (hne : ms ≠ [])
    (h : ∀ m ∈ ms, m.ignores path = .error e) : someIgnores path ms = .error e := by
  obtain ⟨m, ms, rfl⟩ := List.exists_cons_of_ne_nil hne
  rw [someIgnores_cons, h m List.mem_cons_self]
  rfl

theorem eq_emptyPattern_of_ofLine? {line : Text} {e : Failure}
    (h : Rule.ofLine? line = .error e) : e = .emptyPattern := by
  rw [Rule.ofLine?] at h
  split at h
  · cases h
  dsimp only at h
  generalize Rule.mergeStars true 0 _ = pattern at h
  split at h
  · cases h
  split at h
  · cases h
  · exact (Except.error.inj h).symm

theorem ne_unwritable_of_ofBytes {base : List Text} {bytes : List UInt8} {e : Failure}
    (h : ofBytes base bytes = .error e) : e ≠ .unwritable := by
  rw [ofBytes] at h
  split at h
  · obtain rfl := Except.error.inj h
    decide
  · rcases bind_eq_error_iff.1 h with h | ⟨_, -, h⟩
    · obtain ⟨line, -, hline⟩ := exists_of_mapM_error h
      rw [eq_emptyPattern_of_ofLine? hline]
      decide
    · cases h

end Ignore.Matcher

namespace Project

theorem considers_root_iff {root : Entry} {path : Path} {bytes : List UInt8} :
    Considers false root path bytes ↔
      path = [rulesFile] ∧ root.at? [rulesFile] = some (.file bytes) := by
  constructor
  · rintro ⟨hat, hnamed, -, hplaced⟩
    obtain ⟨name, rfl⟩ := List.length_eq_one_iff.1 (hplaced.resolve_left Bool.false_ne_true)
    obtain rfl : name = rulesFile := Option.some.inj hnamed
    exact ⟨rfl, hat⟩
  · rintro ⟨rfl, hat⟩
    exact ⟨hat, rfl, nofun, Or.inr rfl⟩

namespace Search

variable {s : Search} {root : Entry}

/-- A search puts the rules to the file at a path: it is reached through directories which are entered,
and its extension is sought. -/
structure Tests (s : Search) (root : Entry) (path : Path) : Prop where
  /-- It lies below the root. -/
  below : path ≠ []
  /-- The file is there; neither it nor a directory on the way is reached by a link. -/
  isFile : ∃ bytes, root.at? path = some (.file bytes)
  /-- The directories on the way to it are entered. -/
  entered : ∀ name ∈ path.dropLast, name ∉ Entry.skippedDirectories
  /-- The suffix of its name is an extension that is sought, in lower case. -/
  extension : (extensionOf path).lower ∈ s.extensions.map Text.lower

/-- The rules file of the root, if there is one, can be made out, and the rules answer for each file to
which the search puts them. -/
def RulesAnswer (s : Search) (root : Entry) : Prop :=
  ∀ bytes, root.at? [rulesFile] = some (.file bytes) →
    ∃ m, Ignore.Matcher.ofBytes [] bytes = .ok m ∧
      ∀ path, s.Tests root path → ∃ answer, m.ignores path = .ok answer

theorem tests_iff (h : root.IsWellNamed) {path : Path} :
    s.Tests root path ↔ ∃ bytes, (path, bytes) ∈ root.sourceFiles ∧
      (extensionOf path).lower ∈ s.extensions.map Text.lower := by
  constructor
  · rintro ⟨hne, ⟨bytes, hat⟩, hentered, hextension⟩
    exact ⟨bytes, (Entry.mem_sourceFiles_iff h).2
      ⟨hne, hat, passesSkipped_eq_false_iff.2 hentered⟩, hextension⟩
  · rintro ⟨bytes, hmem, hextension⟩
    obtain ⟨hne, hat, hskipped⟩ := (Entry.mem_sourceFiles_iff h).1 hmem
    exact ⟨hne, ⟨bytes, hat⟩, passesSkipped_eq_false_iff.1 hskipped, hextension⟩

/-- The matchers of a search in which the rules of the root are all that count. -/
theorem mem_matchers_root_iff (h : root.IsWellNamed) {ms : List Ignore.Matcher}
    (hms : matchers false root = .ok ms) {m : Ignore.Matcher} :
    m ∈ ms ↔ ∃ bytes, root.at? [rulesFile] = some (.file bytes) ∧
      Ignore.Matcher.ofBytes [] bytes = .ok m := by
  rw [mem_matchers_iff h hms]
  constructor
  · rintro ⟨path, bytes, hconsiders, hm⟩
    obtain ⟨rfl, hat⟩ := considers_root_iff.1 hconsiders
    exact ⟨bytes, hat, hm⟩
  · rintro ⟨bytes, hat, hm⟩
    exact ⟨_, bytes, considers_root_iff.2 ⟨rfl, hat⟩, hm⟩

/-- The rules of a search that completes answer. -/
theorem rulesAnswer_of_run (h : root.IsWellNamed) (hs : s.nestedIgnore = false)
    {files : List (Path × List UInt8)} (hrun : s.run root = .ok files) : s.RulesAnswer root := by
  intro bytes hat
  obtain ⟨f, hf, -⟩ := exists_filterIn_of_run hrun
  have hf' := hf
  obtain ⟨ms, hms, hf'⟩ := bind_eq_ok_iff.1 hf'
  obtain rfl := Except.ok.inj hf'
  rw [hs] at hms
  obtain ⟨m, hmem, hm⟩ := exists_of_mapM hms
    ((mem_rulesFiles_iff h).2 (considers_root_iff.2 ⟨rfl, hat⟩))
  refine ⟨m, hm, fun path htests => ?_⟩
  obtain ⟨content, hsource, hextension⟩ := (tests_iff h).1 htests
  have htested := isOk_accepts_of_run hf hrun hsource
  cases hignores : m.ignores path with
  | ok answer => exact ⟨answer, rfl⟩
  | error e =>
      -- There is no other rules file, so that the conditions would fail as well.
      have hall : ∀ m' ∈ ms, m'.ignores path = .error e := by
        intro m' hm'
        obtain ⟨bytes', hat', hm'⟩ := (mem_matchers_root_iff h hms).1 hm'
        obtain rfl := Entry.file.inj (Option.some.inj (hat.symm.trans hat'))
        obtain rfl := Except.ok.inj (hm.symm.trans hm')
        exact hignores
      have hname : Filter.allowsName ⟨s.extensions.map Text.lower, s.includes, s.excludes, ms⟩ path =
          true := Filter.allowsName_iff.2
            ⟨hextension, passesSkipped_eq_false_iff.2 htests.entered⟩
      rw [Filter.accepts_eq_error_iff.2
        ⟨hname, Ignore.Matcher.someIgnores_eq_error (List.ne_nil_of_mem hmem) hall⟩] at htested
      cases htested

/-- **When a search completes**: exactly if the rules of the root answer, where they are all that
count. -/
theorem exists_run_iff (h : root.IsWellNamed) (hs : s.nestedIgnore = false) :
    (∃ files, s.run root = .ok files) ↔ s.RulesAnswer root := by
  refine ⟨fun ⟨files, hrun⟩ => rulesAnswer_of_run h hs hrun, fun hrules => ?_⟩
  obtain ⟨ms, hms⟩ : ∃ ms, matchers false root = .ok ms := by
    refine exists_mapM_eq_ok ?_
    rintro ⟨path, bytes⟩ hmem
    obtain ⟨rfl, hat⟩ := considers_root_iff.1 ((mem_rulesFiles_iff h).1 hmem)
    obtain ⟨m, hm, -⟩ := hrules bytes hat
    exact ⟨m, hm⟩
  have hf : s.filterIn root = .ok ⟨s.extensions.map Text.lower, s.includes, s.excludes, ms⟩ := by
    rw [filterIn, hs, hms]
    rfl
  rw [run_eq hf, if_pos]
  · exact ⟨_, rfl⟩
  · rw [List.all_eq_true]
    rintro ⟨path, bytes⟩ hsource
    cases haccepts : Filter.accepts ⟨s.extensions.map Text.lower, s.includes, s.excludes, ms⟩ path with
    | ok answer => rfl
    | error e =>
        obtain ⟨hname, hignores⟩ := Filter.accepts_eq_error_iff.1 haccepts
        have htests := (tests_iff h).2 ⟨bytes, hsource, (Filter.allowsName_iff.1 hname).1⟩
        obtain ⟨answer, hanswer⟩ : ∃ answer, Ignore.Matcher.someIgnores path ms = .ok answer := by
          refine Ignore.Matcher.exists_someIgnores fun m hm => ?_
          obtain ⟨bytes', hat, hm⟩ := (mem_matchers_root_iff h hms).1 hm
          obtain ⟨m', hm', hanswers⟩ := hrules bytes' hat
          obtain rfl := Except.ok.inj (hm.symm.trans hm')
          exact hanswers path htests
        rw [hanswer] at hignores
        cases hignores

/-- No search fails for a record that cannot be written. -/
theorem ne_unwritable_of_run {e : Failure} (h : s.run root = .error e) : e ≠ .unwritable := by
  rcases bind_eq_error_iff.1 h with hf | ⟨f, hf, -⟩
  · rcases bind_eq_error_iff.1 hf with hms | ⟨_, -, hf⟩
    · obtain ⟨x, -, hx⟩ := exists_of_mapM_error hms
      exact Ignore.Matcher.ne_unwritable_of_ofBytes hx
    · cases hf
  · rw [run_eq hf] at h
    split at h
    · cases h
    · obtain rfl := Except.error.inj h
      decide

end Search

end Project

end ComponentIndex
