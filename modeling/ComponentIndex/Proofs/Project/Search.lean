/-
**The search for source files.**

A search finds exactly the files that are reached through directories which are entered, whose
extension is sought, which no rules file that counts ignores, and which the patterns allow.  They come
strictly in the order of their paths.  A walk that enters every directory, and then puts the conditions
to each entry, finds the same; and the order in which directories list their entries makes no
difference, not even to a search that fails.

Main definitions:

* `ComponentIndex.Project.Search.Finds` — the files that a search is to find;
* `ComponentIndex.Project.Search.runUnpruned` — the search that enters every directory.

Main results:

* `ComponentIndex.Project.Search.mem_iff_of_run` — the files that are found;
* `ComponentIndex.Project.Search.runUnpruned_eq` — **entering every directory** finds the same files;
* `ComponentIndex.Project.Search.run_eq_of_sameEntries` — other orders of the entries;
* `ComponentIndex.Project.Search.run_isExact` — **a search is exact**.
-/

import ComponentIndex.Proofs.FileName
import ComponentIndex.Proofs.Project.Filter

set_option relaxedAutoImplicit false
set_option autoImplicit false

namespace ComponentIndex.Project

/-! ### Sorting by paths -/

/-- Files whose paths differ come in the same order however they are given. -/
theorem byPath_eq_of_perm {α : Type} {files files' : List (Path × α)} (h : files.Perm files')
    (hpaths : files.Pairwise fun f g => f.1.toText ≠ g.1.toText) : byPath files = byPath files' := by
  have hpaths' : files'.Pairwise fun f g => f.1.toText ≠ g.1.toText :=
    h.pairwise hpaths fun hfg => hfg.symm
  have hperm : (byPath files).Perm (byPath files') :=
    (sortBy_perm files).trans (h.trans (sortBy_perm files').symm)
  exact (Text.isStrict_less.comap fun f : Path × α => f.1.toText).eq_of_perm hperm
    (pairwise_byPath hpaths) (pairwise_byPath hpaths')

/-- The order of files depends on their paths only. -/
theorem map_byPath {α : Type} (files : List (Path × α)) :
    (byPath files).map Prod.fst =
      sortBy (fun p q => p.toText.less q.toText) (files.map Prod.fst) :=
  @map_sortBy _ (fun p q : Path => p.toText.less q.toText) _ Prod.fst files

namespace Search

variable {s : Search} {root : Entry} {files : List (Path × List UInt8)}

/-! ### The files that are found -/

/-- The file at a path is one that a search is to find. -/
structure Finds (s : Search) (root : Entry) (path : Path) (bytes : List UInt8) : Prop where
  /-- The file is there; neither it nor a directory on the way is reached by a link. -/
  isFile : root.at? path = some (.file bytes)
  /-- The directories on the way to it are entered. -/
  entered : ∀ name ∈ path.dropLast, name ∉ Entry.skippedDirectories
  /-- The suffix of its name is an extension that is sought, in lower case. -/
  extension : ∃ name suffix, path.getLast? = some name ∧ FileName.IsSuffix name suffix ∧
    suffix.lower ∈ s.extensions.map Text.lower
  /-- No rules file that counts ignores it. -/
  notIgnored : ∀ rules text m, Considers s.nestedIgnore root rules text →
    Ignore.Matcher.ofBytes rules.dropLast text = .ok m → m.ignores path = .ok false
  /-- It matches a pattern to include, if there are any. -/
  included : s.includes = [] ∨ ∃ pattern ∈ s.includes, Glob.accepts pattern path.toText = true
  /-- It matches no pattern to exclude. -/
  notExcluded : ∀ pattern ∈ s.excludes, Glob.accepts pattern path.toText = false

/-- A file is found if its path meets the conditions. -/
theorem finds_iff (h : root.IsWellNamed) {f : Filter} (hf : s.filterIn root = .ok f) {path : Path}
    {bytes : List UInt8} :
    s.Finds root path bytes ↔
      (path, bytes) ∈ root.sourceFiles ∧ f.accepts path = .ok true := by
  obtain ⟨ms, hms, hf⟩ := bind_eq_ok_iff.1 hf
  obtain rfl := Except.ok.inj hf
  rw [Entry.mem_sourceFiles_iff h, Filter.accepts_eq_true_iff, Filter.allowsName_iff,
    Filter.allowsPath_iff]
  constructor
  · rintro ⟨hat, hentered, ⟨name, suffix, hname, hsuffix, hmem⟩, hignored, hincluded, hexcluded⟩
    have hne : path ≠ [] := by
      rintro rfl
      cases hname
    have hskipped : passesSkipped path = false := passesSkipped_eq_false_iff.2 hentered
    have hextension : extensionOf path = suffix := by
      rw [extensionOf, hname]
      exact FileName.isSuffix_iff.1 hsuffix
    refine ⟨⟨hne, hat, hskipped⟩, ⟨hextension ▸ hmem, hskipped⟩, fun m hm => ?_, hincluded,
      hexcluded⟩
    obtain ⟨rules, text, hconsiders, hm⟩ := (mem_matchers_iff h hms).1 hm
    exact hignored rules text m hconsiders hm
  · rintro ⟨⟨hne, hat, hskipped⟩, ⟨hmem, -⟩, hignored, hincluded, hexcluded⟩
    have hlast : path.getLast? = some (path.getLast hne) := List.getLast?_eq_some_getLast hne
    have hsuffix : FileName.IsSuffix (path.getLast hne) (extensionOf path) := by
      rw [FileName.isSuffix_iff, extensionOf, hlast]
      rfl
    refine ⟨hat, passesSkipped_eq_false_iff.1 hskipped, ⟨_, _, hlast, hsuffix, hmem⟩, ?_, hincluded,
      hexcluded⟩
    intro rules text m hconsiders hm
    exact hignored m ((mem_matchers_iff h hms).2 ⟨rules, text, hconsiders, hm⟩)

/-- A search that succeeds finds the files whose paths meet the conditions. -/
theorem exists_filterIn_of_run (hrun : s.run root = .ok files) :
    ∃ f, s.filterIn root = .ok f ∧
      ∀ x, x ∈ files ↔ x ∈ root.sourceFiles ∧ f.accepts x.1 = .ok true := by
  obtain ⟨f, hf, hrun⟩ := bind_eq_ok_iff.1 hrun
  obtain ⟨kept, hkept, hrun⟩ := bind_eq_ok_iff.1 hrun
  obtain rfl : byPath kept = files := Except.ok.inj hrun
  refine ⟨f, hf, fun x => ?_⟩
  rw [byPath, (sortBy_perm kept).mem_iff, eq_filter_of_filterM hkept, List.mem_filter,
    confirms_eq_true_iff]

/-- **The files that are found** are those that the search is to find. -/
theorem mem_iff_of_run (h : root.IsWellNamed) (hrun : s.run root = .ok files) {path : Path}
    {bytes : List UInt8} : (path, bytes) ∈ files ↔ s.Finds root path bytes := by
  obtain ⟨f, hf, hfiles⟩ := exists_filterIn_of_run hrun
  rw [finds_iff h hf, hfiles]

theorem pairwise_of_run (h : root.IsWellNamed) (hrun : s.run root = .ok files) :
    files.Pairwise fun f g => f.1.toText.less g.1.toText := by
  obtain ⟨f, -, hrun⟩ := bind_eq_ok_iff.1 hrun
  obtain ⟨kept, hkept, hrun⟩ := bind_eq_ok_iff.1 hrun
  obtain rfl : byPath kept = files := Except.ok.inj hrun
  rw [eq_filter_of_filterM hkept]
  exact pairwise_byPath ((Entry.pairwise_sourceFiles h).filter _)

/-- The whole outcome of a search in a project whose rules files can be made out. -/
theorem run_eq {f : Filter} (hf : s.filterIn root = .ok f) :
    s.run root =
      if root.sourceFiles.all fun x => (f.accepts x.1).isOk then
        .ok (byPath (root.sourceFiles.filter fun x => confirms (f.accepts x.1)))
      else .error .malformedPattern := by
  have hfilter : root.sourceFiles.filterM (fun x => f.accepts x.1) = _ :=
    filterM_eq fun x _ e he => Filter.eq_malformedPattern_of_accepts he
  rw [run, hf]
  change (root.sourceFiles.filterM (fun x => f.accepts x.1) >>= fun kept => .ok (byPath kept)) = _
  rw [hfilter]
  split
  · rfl
  · rfl

/-- A search succeeds if the rules can be read. -/
theorem exists_run (h : root.IsWellNamed) (hrules : HasReadableRules s.nestedIgnore root) :
    ∃ files, s.run root = .ok files := by
  obtain ⟨ms, hms, hreadable⟩ := hrules.exists_matchers h
  have hf : s.filterIn root = .ok ⟨s.extensions.map Text.lower, s.includes, s.excludes, ms⟩ := by
    rw [filterIn, hms]
    rfl
  rw [run_eq hf, if_pos]
  · exact ⟨_, rfl⟩
  · rw [List.all_eq_true]
    intro x _
    obtain ⟨answer, hanswer⟩ := Filter.exists_accepts (f := ⟨_, _, _, ms⟩) hreadable x.1
    rw [hanswer]
    rfl

/-! ### Entering every directory -/

/-- The search by a walk that enters every directory: the paths of the entries that meet the
conditions. -/
def runUnpruned (s : Search) (root : Entry) : Except Failure (List Path) := do
  let f ← s.filterIn root
  return (byPath (← root.walk.filterM fun (path, _) => f.acceptsEntry path root)).map Prod.fst

/-- A file is tested by its path. -/
theorem acceptsEntry_of_at? {f : Filter} {path : Path} {bytes : List UInt8} (hne : path ≠ [])
    (hnames : ∀ name ∈ path, name ∉ Entry.placeNames) (hat : root.at? path = some (.file bytes)) :
    f.acceptsEntry path root = f.accepts path := by
  rw [Filter.acceptsEntry, Entry.lookup?_of_at? hne hnames hat]

/-- What the walk that leaves out some directories does not keep is refused by the conditions. -/
theorem acceptsEntry_of_keptFile?_eq_none {f : Filter} {x : Path × Entry} (hne : x.1 ≠ [])
    (hnames : ∀ name ∈ x.1, name ∉ Entry.placeNames) (hat : root.at? x.1 = some x.2)
    (hkept : Entry.keptFile? x = none) : f.acceptsEntry x.1 root = .ok false := by
  obtain ⟨path, e⟩ := x
  cases e with
  | file bytes =>
      have hskipped : passesSkipped path = true := by
        by_contra hpasses
        rw [Entry.keptFile?, if_neg hpasses] at hkept
        cases hkept
      have hname : f.allowsName path = false := by
        rw [Filter.allowsName, hskipped, Bool.not_true, Bool.and_false]
      rw [acceptsEntry_of_at? hne hnames hat, Filter.accepts_of_not_allowsName hname]
  | link target =>
      rw [Filter.acceptsEntry, Entry.lookup?_of_at? hne hnames hat]
      rfl
  | directory entries =>
      rw [Filter.acceptsEntry, Entry.lookup?_of_at? hne hnames hat]
      rfl

/-- What the walk that leaves out some directories keeps is tested by its path. -/
theorem acceptsEntry_of_keptFile?_eq_some {f : Filter} {x : Path × Entry}
    {file : Path × List UInt8} (hne : x.1 ≠ []) (hnames : ∀ name ∈ x.1, name ∉ Entry.placeNames)
    (hat : root.at? x.1 = some x.2) (hkept : Entry.keptFile? x = some file) :
    file.1 = x.1 ∧ f.acceptsEntry x.1 root = f.accepts x.1 := by
  obtain ⟨path, e⟩ := x
  cases e with
  | file bytes =>
      rw [Entry.keptFile?] at hkept
      split at hkept
      · cases hkept
      · obtain rfl := Option.some.inj hkept
        exact ⟨rfl, acceptsEntry_of_at? hne hnames hat⟩
  | link target => cases hkept
  | directory entries => cases hkept

/-- Entries that the conditions accept, and the files of them that the walk keeps. -/
theorem filter_acceptsEntry (f : Filter) {xs : List (Path × Entry)}
    (hxs : ∀ x ∈ xs, x.1 ≠ [] ∧ (∀ name ∈ x.1, name ∉ Entry.placeNames) ∧
      root.at? x.1 = some x.2) :
    xs.all (fun x => (f.acceptsEntry x.1 root).isOk) =
        (xs.filterMap Entry.keptFile?).all (fun x => (f.accepts x.1).isOk) ∧
      (xs.filter fun x => confirms (f.acceptsEntry x.1 root)).map Prod.fst =
        ((xs.filterMap Entry.keptFile?).filter fun x => confirms (f.accepts x.1)).map Prod.fst := by
  induction xs with
  | nil => exact ⟨rfl, rfl⟩
  | cons x xs ih =>
      rw [List.forall_mem_cons] at hxs
      obtain ⟨⟨hne, hnames, hat⟩, hxs⟩ := hxs
      obtain ⟨hall, hfilter⟩ := ih hxs
      cases hkept : Entry.keptFile? x with
      | none =>
          have hrefused := acceptsEntry_of_keptFile?_eq_none (f := f) hne hnames hat hkept
          constructor
          · rw [List.all_cons, List.filterMap_cons_none hkept, hrefused, ← hall]
            rfl
          · rw [List.filter_cons_of_neg (by rw [hrefused]; exact Bool.false_ne_true),
              List.filterMap_cons_none hkept, hfilter]
      | some file =>
          obtain ⟨hfile, htested⟩ := acceptsEntry_of_keptFile?_eq_some (f := f) hne hnames hat hkept
          constructor
          · rw [List.all_cons, List.filterMap_cons_some hkept, List.all_cons, hall, hfile, htested]
          · rw [List.filter_cons, List.filterMap_cons_some hkept, List.filter_cons, hfile, htested]
            split
            · rw [List.map_cons, List.map_cons, hfilter, hfile]
            · exact hfilter

/-- **Entering every directory** and putting the conditions to each entry finds the same files as
leaving out the directories that are skipped, and fails where that fails. -/
theorem runUnpruned_eq (h : root.IsWellNamed) (hnames : root.HasRealNames) :
    s.runUnpruned root = (s.run root).map (List.map Prod.fst) := by
  cases hf : s.filterIn root with
  | error e => rw [runUnpruned, run, hf]; rfl
  | ok f =>
      have hwalk : ∀ x ∈ root.walk, x.1 ≠ [] ∧ (∀ name ∈ x.1, name ∉ Entry.placeNames) ∧
          root.at? x.1 = some x.2 := by
        intro x hx
        obtain ⟨hne, hat⟩ := (Entry.mem_walk_iff h).1 hx
        exact ⟨hne, hnames x hx, hat⟩
      have hfails : ∀ x ∈ root.walk, ∀ e, f.acceptsEntry x.1 root = .error e →
          e = .malformedPattern := by
        intro x hx e he
        obtain ⟨hne, hnames, hat⟩ := hwalk x hx
        cases hkept : Entry.keptFile? x with
        | none =>
            rw [acceptsEntry_of_keptFile?_eq_none hne hnames hat hkept] at he
            cases he
        | some file =>
            rw [(acceptsEntry_of_keptFile?_eq_some hne hnames hat hkept).2] at he
            exact Filter.eq_malformedPattern_of_accepts he
      have hunpruned : s.runUnpruned root =
          root.walk.filterM (fun x => f.acceptsEntry x.1 root) >>= fun kept =>
            .ok ((byPath kept).map Prod.fst) := by
        rw [runUnpruned, hf]
        rfl
      obtain ⟨hall, hfilter⟩ := filter_acceptsEntry f hwalk
      rw [hunpruned, filterM_eq hfails, hall, run_eq hf, Entry.sourceFiles_eq_filterMap]
      split
      · change Except.ok _ = Except.ok _
        rw [map_byPath, map_byPath, hfilter]
      · rfl

/-! ### Other orders of the entries -/

theorem rulesFiles_eq_of_sameEntries {nested : Bool} {root' : Entry} (h : root.IsWellNamed)
    (h' : root'.IsWellNamed) (hsame : root.SameEntries root') :
    rulesFiles nested root = rulesFiles nested root' :=
  byPath_eq_of_perm ((hsame.sourceFiles_perm h h').filter _)
    ((Entry.pairwise_sourceFiles h).filter _)

/-- **The order of the entries makes no difference** to the outcome of a search. -/
theorem run_eq_of_sameEntries {root' : Entry} (h : root.IsWellNamed) (h' : root'.IsWellNamed)
    (hsame : root.SameEntries root') : s.run root' = s.run root := by
  have hfilter : s.filterIn root' = s.filterIn root := by
    rw [filterIn, filterIn, matchers, matchers, rulesFiles_eq_of_sameEntries h h' hsame]
  cases hf : s.filterIn root with
  | error e => rw [run, run, hfilter, hf]; rfl
  | ok f =>
      have hperm : root.sourceFiles.Perm root'.sourceFiles := hsame.sourceFiles_perm h h'
      rw [run_eq hf, run_eq (hfilter.trans hf), hperm.all_eq,
        byPath_eq_of_perm (hperm.filter _) ((Entry.pairwise_sourceFiles h).filter _)]

/-! ### Exactness -/

/-- **A search is exact.** It succeeds if the rules files that count can be read; if it succeeds, it
finds exactly the files that it is to find, strictly in the order of their paths; it has the same
outcome as the search that enters every directory, and as a search in a project whose directories
list the same entries in another order. -/
theorem run_isExact (s : Search) {root : Entry} (h : root.IsWellNamed) (hnames : root.HasRealNames) :
    (HasReadableRules s.nestedIgnore root → ∃ files, s.run root = .ok files) ∧
      (∀ files, s.run root = .ok files →
        files.Pairwise (fun f g => f.1.toText.less g.1.toText) ∧
          ∀ path bytes, (path, bytes) ∈ files ↔ s.Finds root path bytes) ∧
      s.runUnpruned root = (s.run root).map (List.map Prod.fst) ∧
      ∀ root' : Entry, root'.IsWellNamed → root.SameEntries root' → s.run root' = s.run root := by
  refine ⟨exists_run h, fun files hrun => ?_, runUnpruned_eq h hnames, fun root' h' hsame => ?_⟩
  · exact ⟨pairwise_of_run h hrun, fun path bytes => mem_iff_of_run h hrun⟩
  · exact run_eq_of_sameEntries h h' hsame

/-- The entries of a project with a link to one of its directories, a directory that is skipped in
another one, and rules below its root. -/
def linkedEntries : List (Text × Entry) :=
  [("lib", .directory
      [("node_modules", .directory [("b.js", .file [])]), ("c.JS", .file []),
        (".gitignore", .file "gone.*\n".toUTF8.toList), ("gone.js", .file [])]),
    ("alias", .link "lib"), ("d.vue", .file []), ("a.js", .file [])]

/-- A search in all its files but those whose paths begin with a `d`. -/
def linkedSearch : Search where
  extensions := [".js", ".Vue"]
  excludes := ["d*"]
  nestedIgnore := true

theorem isWellNamed_linkedEntries : (Entry.directory linkedEntries).IsWellNamed := by
  simp [linkedEntries, Entry.IsWellNamed, Entry.AreWellNamed]
  decide

theorem hasReadableRules_linkedEntries : HasReadableRules true (.directory linkedEntries) :=
  hasReadableRules_of_all isWellNamed_linkedEntries (by decide +kernel)

theorem run_isExact_linkedEntries :
    (∃ files, linkedSearch.run (.directory linkedEntries) = .ok files) ∧
      linkedSearch.run (.directory linkedEntries) = .ok [(["a.js"], []), (["lib", "c.JS"], [])] ∧
      linkedSearch.Finds (.directory linkedEntries) ["lib", "c.JS"] [] ∧
      ¬linkedSearch.Finds (.directory linkedEntries) ["lib", "gone.js"] [] ∧
      linkedSearch.runUnpruned (.directory linkedEntries) = .ok [["a.js"], ["lib", "c.JS"]] ∧
      linkedSearch.run (.directory linkedEntries.reverse) =
        .ok [(["a.js"], []), (["lib", "c.JS"], [])] := by
  have hnamed' : (Entry.directory linkedEntries.reverse).IsWellNamed := by
    simp [linkedEntries, Entry.IsWellNamed, Entry.AreWellNamed]
    decide
  have hreal : (Entry.directory linkedEntries).HasRealNames := by decide +kernel
  have hsame : Entry.SameEntries (.directory linkedEntries) (.directory linkedEntries.reverse) :=
    Entry.sameEntries_of_perm (List.reverse_perm _).symm (by decide)
  obtain ⟨hexists, hexact, hunpruned, hanyOrder⟩ :=
    run_isExact linkedSearch isWellNamed_linkedEntries hreal
  have hrun : linkedSearch.run (.directory linkedEntries) =
      .ok [(["a.js"], []), (["lib", "c.JS"], [])] := by decide +kernel
  obtain ⟨-, hfinds⟩ := hexact _ hrun
  refine ⟨hexists hasReadableRules_linkedEntries, hrun, (hfinds _ _).1 (by decide),
    mt (hfinds _ _).2 (by decide), ?_, ?_⟩
  · rw [hunpruned, hrun]
    rfl
  · rw [hanyOrder _ hnamed' hsame, hrun]

end Search

end ComponentIndex.Project
