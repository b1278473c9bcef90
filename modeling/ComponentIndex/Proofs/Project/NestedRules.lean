/-
**Rules of nested directories.**

In a nested search the rules files of all directories on the way to a file count, and within each of
them the last rule that matches the file decides.  Between them there is no order.  The file is left
out if any of them decides that it is ignored, and a rule of a deeper directory that takes back takes
back nothing but rules of its own file.

Where the deepest directory that says something about a file is to have the last word, the search
follows it except for the files that it takes back from a directory above.  So a project none of whose
rules below the root takes back is searched as that rule demands.

Main definitions:

* `ComponentIndex.Ignore.Matcher.lastMatching?` — the last rule of a file that matches a path;
* `ComponentIndex.Project.Says` — what a directory says about a file;
* `ComponentIndex.Project.IsDecidedBy` — what the deepest directory says that says something;
* `ComponentIndex.Project.IsOverruled` — the deepest directory takes back what another one ignores;
* `ComponentIndex.Project.Search.Seeks` — all conditions on a file but those of the rules files.

Main results:

* `ComponentIndex.Ignore.Matcher.eq_of_ignores` — **within a file the last rule decides**;
* `ComponentIndex.Project.exists_isDecidedBy` — the deepest directory that says something;
* `ComponentIndex.Project.Search.not_mem_iff_of_run` — **any directory** leaves out a file;
* `ComponentIndex.Project.Search.run_nestedRules` — **when the deepest directory decides**;
* `ComponentIndex.Project.Search.run_takenBack` — a project in which it does not.
-/

import ComponentIndex.Proofs.Project.Detection

set_option relaxedAutoImplicit false
set_option autoImplicit false

namespace ComponentIndex

/-! ### The rules of one file -/

namespace Ignore.Matcher

variable {m : Matcher} {path : List Text} {answer : Bool}

/-- The last rule of a file that matches a path below its directory. -/
def lastMatching? (m : Matcher) (path : List Text) : Option Rule :=
  if m.base.isPrefixOf path then
    (m.rules.filter (·.accepts (Text.join [slash] (path.drop m.base.length)))).getLast?
  else none

theorem base_of_ofBytes {base : List Text} {bytes : List UInt8} (h : ofBytes base bytes = .ok m) :
    m.base = base := by
  rw [ofBytes] at h
  split at h
  · cases h
  · obtain ⟨rules, -, h⟩ := bind_eq_ok_iff.1 h
    rw [← Except.ok.inj h]

theorem prefix_of_lastMatching? {r : Rule} (h : m.lastMatching? path = some r) :
    m.base <+: path := by
  rw [lastMatching?] at h
  split at h
  next hbase => exact List.isPrefixOf_iff_prefix.1 hbase
  · cases h

theorem mem_of_lastMatching? {r : Rule} (h : m.lastMatching? path = some r) : r ∈ m.rules := by
  rw [lastMatching?] at h
  split at h
  · exact List.mem_of_mem_filter (List.mem_of_getLast? h)
  · cases h

/-- Where no rule that is asked is unreadable, the first one that matches is found. -/
theorem eq_find?_of_firstAccepting {t : Text} {rules : List Rule} {found : Option Rule}
    (h : firstAccepting t rules = .ok found) : found = rules.find? (·.accepts t) := by
  induction rules with
  | nil => exact (Except.ok.inj h).symm
  | cons r rules ih =>
      rw [firstAccepting] at h
      split at h
      · cases h
      · cases haccepts : r.accepts t with
        | true =>
            rw [if_pos haccepts] at h
            rw [List.find?_cons, haccepts, ← Except.ok.inj h]
        | false =>
            rw [if_neg (by simp [haccepts])] at h
            rw [List.find?_cons, haccepts, ih h]

/-- The last rule that matches is the first one if the rules are asked from the end. -/
theorem find?_reverse_accepts (t : Text) (rules : List Rule) :
    rules.reverse.find? (·.accepts t) = (rules.filter (·.accepts t)).getLast? := by
  rw [List.getLast?_eq_head?_reverse, ← List.filter_reverse, List.head?_filter]

/-- If none of some rules takes back, the first one says the same as the last one. -/
theorem any_head?_eq_any_getLast? {rules : List Rule} (h : ∀ r ∈ rules, r.negated = false) :
    rules.head?.any (!·.negated) = rules.getLast?.any (!·.negated) := by
  cases rules with
  | nil => rfl
  | cons r rules =>
      have hlast := h _ (List.getLast_mem (List.cons_ne_nil r rules))
      rw [List.head?_cons, List.getLast?_eq_some_getLast (List.cons_ne_nil r rules),
        Option.any_some, Option.any_some, hlast, h r List.mem_cons_self]

/-- **Within a file the last rule decides** that matches a path, whichever is asked first. -/
theorem eq_of_ignores (h : m.ignores path = .ok answer) :
    answer = (m.lastMatching? path).any (!·.negated) := by
  rw [ignores] at h
  rw [lastMatching?]
  split at h
  next hbase =>
    rw [if_pos hbase]
    obtain ⟨found, hfound, h⟩ := bind_eq_ok_iff.1 h
    obtain rfl := Except.ok.inj h
    rw [eq_find?_of_firstAccepting hfound, asked]
    split
    · rw [find?_reverse_accepts]
    next hnegated =>
      -- The rules are asked from the beginning, but all of them ignore what they match.
      rw [← List.head?_filter]
      refine any_head?_eq_any_getLast? fun r hr => ?_
      rw [List.any_eq_true, not_exists] at hnegated
      have hr' := hnegated r
      rw [not_and, Bool.not_eq_true] at hr'
      exact hr' (List.mem_of_mem_filter hr)
  next hbase =>
    rw [if_neg hbase]
    exact (Except.ok.inj h).symm

theorem exists_ignores_of_someIgnores {ms : List Matcher} (h : someIgnores path ms = .ok true) :
    ∃ m ∈ ms, m.ignores path = .ok true := by
  induction ms with
  | nil => cases h
  | cons m ms ih =>
      rw [someIgnores_cons] at h
      obtain ⟨answer, hm, h⟩ := bind_eq_ok_iff.1 h
      cases answer with
      | true => exact ⟨m, List.mem_cons_self, hm⟩
      | false =>
          obtain ⟨m', hmem, hm'⟩ := ih h
          exact ⟨m', List.mem_cons_of_mem _ hmem, hm'⟩

end Ignore.Matcher

namespace Project

variable {root : Entry} {path dir dir' : Path} {r r' : Ignore.Rule}

/-! ### Directories that judge a file -/

/-- The rules file of a directory counts, and the last rule of it that matches a file is the given
one. -/
def Judges (root : Entry) (path dir : Path) (r : Ignore.Rule) : Prop :=
  ∃ text m, Considers true root (dir ++ [rulesFile]) text ∧
    Ignore.Matcher.ofBytes dir text = .ok m ∧ m.lastMatching? path = some r

/-- A directory judges what lies below it. -/
theorem Judges.prefix (h : Judges root path dir r) : dir <+: path := by
  obtain ⟨text, m, -, hm, hr⟩ := h
  exact Ignore.Matcher.base_of_ofBytes hm ▸ Ignore.Matcher.prefix_of_lastMatching? hr

/-- A directory that judges a file lies above it. -/
theorem Judges.length_lt (h : Judges root path dir r) {bytes : List UInt8}
    (hfile : root.at? path = some (.file bytes)) : dir.length < path.length := by
  refine Nat.lt_of_le_of_ne h.prefix.length_le fun hlength => ?_
  obtain rfl : dir = path := h.prefix.eq_of_length hlength
  obtain ⟨text, m, hconsiders, -⟩ := h
  have hinside := hconsiders.isFile
  rw [Entry.at?_append, hfile] at hinside
  cases hinside

/-- At each depth there is one rule at most by which a file is judged. -/
theorem Judges.unique (h : Judges root path dir r) (h' : Judges root path dir' r')
    (hlength : dir.length = dir'.length) : r = r' := by
  obtain rfl : dir = dir' :=
    (List.prefix_of_prefix_length_le h.prefix h'.prefix hlength.le).eq_of_length hlength
  obtain ⟨text, m, hconsiders, hm, hr⟩ := h
  obtain ⟨text', m', hconsiders', hm', hr'⟩ := h'
  obtain rfl : text = text' :=
    Entry.file.inj (Option.some.inj (hconsiders.isFile.symm.trans hconsiders'.isFile))
  obtain rfl : m = m' := Except.ok.inj (hm.symm.trans hm')
  exact Option.some.inj (hr.symm.trans hr')

/-- The deepest directory that judges a file, and the rule by which it does. -/
structure IsDecidedBy (root : Entry) (path dir : Path) (r : Ignore.Rule) : Prop where
  /-- The directory judges the file. -/
  judges : Judges root path dir r
  /-- No deeper one does. -/
  deepest : ∀ dir' r', Judges root path dir' r' → dir'.length ≤ dir.length

theorem IsDecidedBy.unique (h : IsDecidedBy root path dir r) (h' : IsDecidedBy root path dir' r') :
    r = r' :=
  h.judges.unique h'.judges (Nat.le_antisymm (h'.deepest _ _ h.judges) (h.deepest _ _ h'.judges))

/-- If some directory judges a file, there is a **deepest one** that does. -/
theorem Judges.exists_isDecidedBy (h : Judges root path dir r) :
    ∃ dir' r', IsDecidedBy root path dir' r' := by
  -- The directory lies on the way to the file, which bounds its depth.
  induction hn : path.length - dir.length using Nat.strongRecOn generalizing dir r with
  | ind n ih =>
      by_cases hdeepest : ∀ dir' r', Judges root path dir' r' → dir'.length ≤ dir.length
      · exact ⟨dir, r, h, hdeepest⟩
      · push Not at hdeepest
        obtain ⟨dir', r', h', hdeeper⟩ := hdeepest
        have hbound := h'.prefix.length_le
        exact ih _ (by omega) h' rfl

/-- A directory ignores a file that the deepest directory by which it is judged takes back. -/
def IsOverruled (root : Entry) (path : Path) : Prop :=
  (∃ dir r, Judges root path dir r ∧ r.negated = false) ∧
    ∃ dir r, IsDecidedBy root path dir r ∧ r.negated = true

/-- Whether a rules file takes back or ignores a file, as it is read. -/
theorem exists_judges {text : List UInt8} {negated : Bool}
    (hconsiders : Considers true root (dir ++ [rulesFile]) text)
    (h : ((Ignore.Matcher.ofBytes dir text).toOption.bind (·.lastMatching? path)).map
      Ignore.Rule.negated = some negated) : ∃ r, Judges root path dir r ∧ r.negated = negated := by
  obtain ⟨r, hr, hnegated⟩ := Option.map_eq_some_iff.1 h
  obtain ⟨m, hm, hr⟩ := Option.bind_eq_some_iff.1 hr
  cases hofBytes : Ignore.Matcher.ofBytes dir text with
  | error e =>
      rw [hofBytes] at hm
      cases hm
  | ok m' =>
      rw [hofBytes] at hm
      obtain rfl : m' = m := Option.some.inj hm
      exact ⟨r, ⟨text, m', hconsiders, hofBytes, hr⟩, hnegated⟩

/-- What any directory ignores is what the deepest one ignores, but for what is overruled. -/
theorem isOverruled_iff :
    IsOverruled root path ↔
      ¬((∃ dir r, Judges root path dir r ∧ r.negated = false) ↔
        ∃ dir r, IsDecidedBy root path dir r ∧ r.negated = false) := by
  constructor
  · rintro ⟨hignores, dir, r, hdecided, hnegated⟩ hsame
    obtain ⟨dir', r', hdecided', hnegated'⟩ := hsame.1 hignores
    rw [hdecided.unique hdecided', hnegated'] at hnegated
    cases hnegated
  · intro hdiffer
    have hignores : ∃ dir r, Judges root path dir r ∧ r.negated = false := by
      by_contra hnone
      refine hdiffer ⟨fun h => absurd h hnone, ?_⟩
      rintro ⟨dir, r, hdecided, hnegated⟩
      exact ⟨dir, r, hdecided.judges, hnegated⟩
    obtain ⟨dir, r, hdecided⟩ : ∃ dir r, IsDecidedBy root path dir r := by
      obtain ⟨dir, r, hjudges, -⟩ := hignores
      exact hjudges.exists_isDecidedBy
    -- Had the deepest directory ignored the file too, the two would not differ.
    refine ⟨hignores, dir, r, hdecided, ?_⟩
    by_contra hnegated
    rw [Bool.not_eq_true] at hnegated
    exact hdiffer ⟨fun _ => ⟨dir, r, hdecided, hnegated⟩, fun _ => hignores⟩

/-- Where only the rules of the root take back, no file is overruled: these are judged last. -/
theorem not_isOverruled_of_root
    (h : ∀ dir text m, dir ≠ [] → Considers true root (dir ++ [rulesFile]) text →
      Ignore.Matcher.ofBytes dir text = .ok m → ∀ r ∈ m.rules, r.negated = false) :
    ¬IsOverruled root path := by
  rintro ⟨⟨dir, r, hjudges, hnegated⟩, dir', r', hdecided, hnegated'⟩
  have hroot : dir' = [] := by
    by_contra hne
    obtain ⟨text, m, hconsiders, hm, hr⟩ := hdecided.judges
    rw [h dir' text m hne hconsiders hm r' (Ignore.Matcher.mem_of_lastMatching? hr)] at hnegated'
    cases hnegated'
  subst hroot
  have hdepth : dir.length = 0 := Nat.le_zero.1 (hdecided.deepest dir r hjudges)
  rw [hjudges.unique hdecided.judges hdepth, hnegated'] at hnegated
  cases hnegated

/-! ### The search -/

namespace Search

variable {s : Search} {bytes : List UInt8} {files : List (Path × List UInt8)}

/-- The file at a path is one that a search is to find, unless a rules file ignores it. -/
structure Seeks (s : Search) (root : Entry) (path : Path) (bytes : List UInt8) : Prop where
  /-- The file is there; neither it nor a directory on the way is reached by a link. -/
  isFile : root.at? path = some (.file bytes)
  /-- The directories on the way to it are entered. -/
  entered : ∀ name ∈ path.dropLast, name ∉ Entry.skippedDirectories
  /-- The suffix of its name is an extension that is sought, in lower case. -/
  extension : ∃ name suffix, path.getLast? = some name ∧ FileName.IsSuffix name suffix ∧
    suffix.lower ∈ s.extensions.map Text.lower
  /-- It matches a pattern to include, if there are any. -/
  included : s.includes = [] ∨ ∃ pattern ∈ s.includes, Glob.accepts pattern path.toText = true
  /-- It matches no pattern to exclude. -/
  notExcluded : ∀ pattern ∈ s.excludes, Glob.accepts pattern path.toText = false

/-- A file that is sought is found if no rules file ignores it. -/
theorem Seeks.finds (h : s.Seeks root path bytes)
    (hrules : ∀ rules text m, Considers s.nestedIgnore root rules text →
      Ignore.Matcher.ofBytes rules.dropLast text = .ok m → m.ignores path = .ok false) :
    s.Finds root path bytes :=
  ⟨h.isFile, h.entered, h.extension, hrules, h.included, h.notExcluded⟩

theorem Seeks.mem_sourceFiles (h : s.Seeks root path bytes) (hroot : root.IsWellNamed) :
    (path, bytes) ∈ root.sourceFiles := by
  obtain ⟨name, suffix, hname, -, -⟩ := h.extension
  refine (Entry.mem_sourceFiles_iff hroot).2
    ⟨?_, h.isFile, passesSkipped_eq_false_iff.2 h.entered⟩
  rintro rfl
  cases hname

theorem Seeks.allowsName (h : s.Seeks root path bytes) {f : Filter} (hf : s.filterIn root = .ok f) :
    f.allowsName path = true := by
  obtain ⟨ms, -, hf⟩ := bind_eq_ok_iff.1 hf
  obtain rfl := Except.ok.inj hf
  obtain ⟨name, suffix, hname, hsuffix, hmem⟩ := h.extension
  have hextension : extensionOf path = suffix := by
    rw [extensionOf, hname]
    exact FileName.isSuffix_iff.1 hsuffix
  exact Filter.allowsName_iff.2 ⟨hextension ▸ hmem, passesSkipped_eq_false_iff.2 h.entered⟩

/-- A file that is sought and not found is ignored by a rules file: where the rules cannot be asked,
there is no search that succeeds. -/
theorem Seeks.exists_ignores (h : s.Seeks root path bytes) (hroot : root.IsWellNamed)
    (hrun : s.run root = .ok files) (hmem : (path, bytes) ∉ files) :
    ∃ rules text m, Considers s.nestedIgnore root rules text ∧
      Ignore.Matcher.ofBytes rules.dropLast text = .ok m ∧ m.ignores path = .ok true := by
  obtain ⟨f, hf, -⟩ := exists_filterIn_of_run hrun
  obtain ⟨ms, hms, rfl⟩ := exists_matchers_of_filterIn hf
  have htested := isOk_accepts_of_run hf hrun (h.mem_sourceFiles hroot)
  -- The search has put the rules to this file, whose name is sought, so that they gave an answer.
  cases hignores : Ignore.Matcher.someIgnores path f.matchers with
  | error e =>
      rw [Filter.accepts_eq_error_iff.2 ⟨h.allowsName hf, hignores⟩] at htested
      cases htested
  | ok answer =>
      cases answer with
      | true =>
          obtain ⟨m, hm, htrue⟩ := Ignore.Matcher.exists_ignores_of_someIgnores hignores
          obtain ⟨rules, text, hconsiders, hofBytes⟩ := (mem_matchers_iff hroot hms).1 hm
          exact ⟨rules, text, m, hconsiders, hofBytes, htrue⟩
      | false =>
          refine absurd ((mem_iff_of_run hroot hrun).2 (h.finds ?_)) hmem
          intro rules text m hconsiders hofBytes
          exact Ignore.Matcher.someIgnores_eq_false_iff.1 hignores m
            ((mem_matchers_iff hroot hms).2 ⟨rules, text, hconsiders, hofBytes⟩)

/-- **Any directory leaves out a file** by a rule that ignores it, whatever the others say. -/
theorem not_mem_iff_of_run (h : root.IsWellNamed) (hnested : s.nestedIgnore = true)
    (hrun : s.run root = .ok files) (hseeks : s.Seeks root path bytes) :
    (path, bytes) ∉ files ↔ ∃ dir r, Judges root path dir r ∧ r.negated = false := by
  constructor
  · intro hmem
    obtain ⟨rules, text, m, hconsiders, hm, hignores⟩ := hseeks.exists_ignores h hrun hmem
    have hlast := Ignore.Matcher.eq_of_ignores hignores
    obtain ⟨r, hr, hnegated⟩ := (Option.any_eq_true _ _).1 hlast.symm
    rw [Bool.not_eq_true'] at hnegated
    refine ⟨rules.dropLast, r, ⟨text, m, ?_, hm, hr⟩, hnegated⟩
    rwa [List.dropLast_append_getLast? _ hconsiders.named, ← hnested]
  · rintro ⟨dir, r, ⟨text, m, hconsiders, hm, hr⟩, hnegated⟩ hmem
    have hignores := ((mem_iff_of_run h hrun).1 hmem).notIgnored (dir ++ [rulesFile]) text m
      (hnested ▸ hconsiders) (by rwa [List.dropLast_concat])
    have hlast := Ignore.Matcher.eq_of_ignores hignores
    rw [hr, Option.any_some, hnegated] at hlast
    cases hlast

/-- **When the deepest directory decides.** A nested search succeeds if the rules can be read. If it
succeeds, it leaves out a file that it seeks exactly if some directory ignores the file; so it follows
the deepest directory that judges the file unless the file is overruled. -/
theorem run_nestedRules (s : Search) {root : Entry} (h : root.IsWellNamed)
    (hnested : s.nestedIgnore = true) :
    (HasReadableRules true root → ∃ files, s.run root = .ok files) ∧
      ∀ files, s.run root = .ok files → ∀ path bytes, s.Seeks root path bytes →
        ((path, bytes) ∉ files ↔ ∃ dir r, Judges root path dir r ∧ r.negated = false) ∧
          (((path, bytes) ∉ files ↔ ∃ dir r, IsDecidedBy root path dir r ∧ r.negated = false) ↔
            ¬IsOverruled root path) := by
  refine ⟨fun hrules => exists_run h (hnested.symm ▸ hrules), fun files hrun path bytes hseeks => ?_⟩
  have hleft := not_mem_iff_of_run h hnested hrun hseeks
  refine ⟨hleft, ?_⟩
  rw [hleft, isOverruled_iff, not_not]

/-- The entries of a project whose root ignores all scripts, and whose directory of sources takes
one of them back. -/
def takenBackEntries : List (Text × Entry) :=
  [(".gitignore", .file "*.js\n".toUTF8.toList),
    ("src", .directory
      [(".gitignore", .file "!keep.js\n".toUTF8.toList), ("a.vue", .file []),
        ("gone.js", .file []), ("keep.js", .file [])])]

/-- A search for scripts and components by the rules of all directories. -/
def takenBackSearch : Search where
  extensions := [".js", ".vue"]
  nestedIgnore := true

theorem isWellNamed_takenBackEntries : (Entry.directory takenBackEntries).IsWellNamed := by
  simp [takenBackEntries, Entry.IsWellNamed, Entry.AreWellNamed]
  decide

theorem hasReadableRules_takenBackEntries : HasReadableRules true (.directory takenBackEntries) :=
  hasReadableRules_of_all isWellNamed_takenBackEntries (by decide +kernel)

theorem run_takenBackEntries :
    takenBackSearch.run (.directory takenBackEntries) = .ok [(["src", "a.vue"], [])] := by
  decide +kernel

theorem considers_takenBackEntries :
    Considers true (.directory takenBackEntries) ["src", rulesFile] "!keep.js\n".toUTF8.toList :=
  ⟨rfl, rfl, by decide, Or.inl rfl⟩

theorem isDecidedBy_takenBackEntries :
    ∃ r, IsDecidedBy (.directory takenBackEntries) ["src", "keep.js"] ["src"] r ∧
      r.negated = true := by
  obtain ⟨r, hjudges, hnegated⟩ : ∃ r, Judges (.directory takenBackEntries) ["src", "keep.js"]
      ["src"] r ∧ r.negated = true :=
    exists_judges considers_takenBackEntries (by decide +kernel)
  refine ⟨r, ⟨hjudges, fun dir' r' hjudges' => ?_⟩, hnegated⟩
  have hat : (Entry.directory takenBackEntries).at? ["src", "keep.js"] = some (.file []) := rfl
  exact Nat.le_of_lt_succ (hjudges'.length_lt hat)

theorem seeks_takenBackEntries :
    takenBackSearch.Seeks (.directory takenBackEntries) ["src", "keep.js"] [] where
  isFile := rfl
  entered := by decide
  extension := ⟨"keep.js", ".js", rfl, FileName.isSuffix_iff.2 (by decide), by decide +kernel⟩
  included := Or.inl rfl
  notExcluded := by
    intro pattern hpattern
    cases hpattern

/-- In that project the rules can be read, and the search leaves out the file that the directory of
sources takes back. -/
theorem run_nestedRules_takenBackEntries :
    (∃ files, takenBackSearch.run (.directory takenBackEntries) = .ok files) ∧
      (∃ dir r, Judges (.directory takenBackEntries) ["src", "keep.js"] dir r ∧
        r.negated = false) ∧
      IsOverruled (.directory takenBackEntries) ["src", "keep.js"] := by
  obtain ⟨hexists, hdecides⟩ := run_nestedRules takenBackSearch isWellNamed_takenBackEntries rfl
  obtain ⟨hleft, -⟩ := hdecides _ run_takenBackEntries _ _ seeks_takenBackEntries
  obtain ⟨r, hdecided, hnegated⟩ := isDecidedBy_takenBackEntries
  have hignored := hleft.1 (by decide)
  exact ⟨hexists hasReadableRules_takenBackEntries, hignored, hignored, _, r, hdecided, hnegated⟩

/-- No rules file ignores a directory with rules, nor one above it. -/
def HasOpenRules (root : Entry) : Prop :=
  ∀ rules text m, Considers true root rules text →
    Ignore.Matcher.ofBytes rules.dropLast text = .ok m →
      ∀ dir text', Considers true root (dir ++ [rulesFile]) text' →
        ∀ above, above ≠ [] → above <+: dir → m.ignores above = .ok false

theorem hasOpenRules_takenBackEntries : HasOpenRules (.directory takenBackEntries) := by
  intro rules text m hconsiders hm dir text' hconsiders' above hne habove
  have hrules : (rulesFiles true (.directory takenBackEntries)).map Prod.fst =
      [[rulesFile], ["src", rulesFile]] := by decide +kernel
  have hopen : ∀ x ∈ rulesFiles true (.directory takenBackEntries),
      (Ignore.Matcher.ofBytes x.1.dropLast x.2).toOption.all
        (fun m => (m.ignores ["src"]).toOption = some false) = true := by decide +kernel
  -- The only directory that can be ignored is that of the sources.
  have hdir : dir = [] ∨ dir = ["src"] := by
    have hmem := List.mem_map_of_mem (f := Prod.fst)
      ((mem_rulesFiles_iff isWellNamed_takenBackEntries).2 hconsiders')
    rw [hrules, List.mem_cons, List.mem_singleton] at hmem
    exact hmem.imp (@List.append_cancel_right _ dir [rulesFile] [])
      (@List.append_cancel_right _ dir [rulesFile] ["src"])
  obtain rfl : above = ["src"] := by
    rcases hdir with rfl | rfl
    · exact absurd (List.prefix_nil.1 habove) hne
    · exact habove.eq_of_length_le (List.length_pos_iff.2 hne)
  have hanswer := hopen _ ((mem_rulesFiles_iff isWellNamed_takenBackEntries).2 hconsiders)
  rw [hm] at hanswer
  cases hignores : m.ignores ["src"] with
  | error e => simp [hignores, Except.toOption] at hanswer
  | ok answer => simpa [hignores, Except.toOption] using hanswer

/-- **A deeper directory that does not decide**: in that project no directory with rules is ignored,
and the file that the deepest rules take back is left out all the same. -/
theorem run_takenBack :
    ¬∀ (s : Search) (root : Entry) (files : List (Path × List UInt8)) (path : Path)
      (bytes : List UInt8), root.IsWellNamed → HasOpenRules root → s.nestedIgnore = true →
        s.run root = .ok files → s.Seeks root path bytes →
          ((path, bytes) ∉ files ↔ ∃ dir r, IsDecidedBy root path dir r ∧ r.negated = false) := by
  intro h
  obtain ⟨r, hdecided, hnegated⟩ := isDecidedBy_takenBackEntries
  obtain ⟨dir, r', hdecided', hnegated'⟩ :=
    (h takenBackSearch (.directory takenBackEntries) _ _ _ isWellNamed_takenBackEntries
      hasOpenRules_takenBackEntries rfl run_takenBackEntries seeks_takenBackEntries).1 (by decide)
  rw [hdecided.unique hdecided', hnegated'] at hnegated
  cases hnegated

end Search

end Project

end ComponentIndex
